import MeeScanner.Camera.Lemmas.Step
import MeeScanner.System.Impl

/-!
This module contains the four parts of the app as components of it, and what a call of App's lambda
leaves in the scans of the camera and in the events of the history.
-/

open Transition

namespace MeeScanner

-- What a call leaves in `scans`, apart from the visit it was made in.
def History.Call.filed (call : History.Call) : ScanResult × ScanHistoryEntity :=
  (call.result, call.row)

def Camera.Scan.filed (scan : Camera.Scan) : ScanResult × ScanHistoryEntity :=
  (scan.result, scan.row)

namespace Camera

section

variable {s s' : State} {e : Event}

theorem filed_onScanResult (result : ScanResult) (analyzerType : AnalyzerType) (now : Int)
    : (s.onScanResult result analyzerType now).scans.map Scan.filed
        =
      s.scans.map Scan.filed ++ [(History.Call.mk result analyzerType now).filed] := by
  simp [State.onScanResult, Scan.filed, History.Call.filed, History.Call.row]

theorem filed_step (hs : Step s e s')
    : s'.scans.map Scan.filed
        =
      s.scans.map Scan.filed ++ (s.call? e).toList.map History.Call.filed := by
  cases hs with
  | barcodeFound => apply filed_onScanResult
  | textSuccess => apply filed_onScanResult
  | objectSuccess _ _ _ _ _ _ _ htask _ hinfos =>
    simp only [State.call?, htask, hinfos]
    apply filed_onScanResult
  | documentResult => apply filed_onScanResult
  | _ => simp [State.call?, State.process, State.receive, State.close, State.finish,
      State.answer, State.composePreview]

end

end Camera

namespace System

section

variable {s s' : State} {e : Event} {es : List Event}

theorem step_eq_some_iff
    : step s e = some s'
        ↔
      e.own = true
        ∧ exec Document.step s.document e.documentEvents = some s'.document
        ∧ exec Camera.step s.camera e.cameraEvents = some s'.camera
        ∧ exec App.step s.app (s.appEvents e) = some s'.app
        ∧ exec History.step s.history (s.historyEvents e) = some s'.history := by
  simp only [step, Option.ite_none_right_eq_some, Option.bind_eq_bind, Option.bind_eq_some_iff,
    Option.some.injEq]
  constructor
  . rintro ⟨hown, document, hdocument, camera, hcamera, app, happ, history, hhistory, rfl⟩
    exact ⟨hown, hdocument, hcamera, happ, hhistory⟩
  . rintro ⟨hown, hdocument, hcamera, happ, hhistory⟩
    exact ⟨hown, _, hdocument, _, hcamera, _, happ, _, hhistory, rfl⟩

def documentPart : Component step Document.step where
  part s := s.document
  events _ e := e.documentEvents
  exec_events _ _ _ h := (step_eq_some_iff.mp h).2.1

def cameraPart : Component step Camera.step where
  part s := s.camera
  events _ e := e.cameraEvents
  exec_events _ _ _ h := (step_eq_some_iff.mp h).2.2.1

def appPart : Component step App.step where
  part s := s.app
  events s e := s.appEvents e
  exec_events _ _ _ h := (step_eq_some_iff.mp h).2.2.2.1

def historyPart : Component step History.step where
  part s := s.history
  events s e := s.historyEvents e
  exec_events _ _ _ h := (step_eq_some_iff.mp h).2.2.2.2

theorem cameraEvents_cases (e : Event) : e.cameraEvents = [] ∨ ∃ f, e.cameraEvents = [f] := by
  cases e with
  | document event now => cases h : event.result? <;> simp [Event.cameraEvents, h]
  | _ => simp [Event.cameraEvents]

theorem camera_step (h : step s e = some s')
    : (e.cameraEvents = [] ∧ s'.camera = s.camera)
        ∨ ∃ f, e.cameraEvents = [f] ∧ Camera.Step s.camera f s'.camera := by
  have hexec := cameraPart.exec_events s e s' h
  simp only [cameraPart] at hexec
  rcases cameraEvents_cases e with hnil | ⟨f, hf⟩
  . rw [hnil, exec_nil, Option.some.injEq] at hexec
    exact Or.inl ⟨hnil, hexec.symm⟩
  . rw [hf, exec_singleton] at hexec
    exact Or.inr ⟨f, hf, Camera.Step.of_step hexec⟩

theorem filed_step (h : step s e = some s')
    : s'.camera.scans.map Camera.Scan.filed
        =
      s.camera.scans.map Camera.Scan.filed ++ (s.calls e).map History.Call.filed := by
  rcases camera_step h with ⟨hnil, hsame⟩ | ⟨f, hf, hs⟩
  . simp [State.calls, hnil, hsame]
  . rw [Camera.filed_step hs, State.calls, hf]
    cases hcall : s.camera.call? f <;> simp [hcall]

theorem calls_historyEvents (h : step s e = some s')
    : History.calls (s.historyEvents e) = s.calls e := by
  have hown := (step_eq_some_iff.mp h).1
  have hmap : ∀ calls : List History.Call,
      (calls.map fun call => History.Event.storeResult call.result call.analyzerType call.now
        ).filterMap History.Event.call? = calls := by
    intro calls
    rw [List.filterMap_map]
    exact List.filterMap_some
  cases e with
  | history event =>
    cases event with
    | storeResult => contradiction
    | _ => rfl
  | _ => exact hmap _

theorem calls_cases (s : State) (e : Event) : s.calls e = [] ∨ ∃ call, s.calls e = [call] := by
  unfold State.calls
  rcases cameraEvents_cases e with hnil | ⟨f, hf⟩
  . simp [hnil]
  . rw [hf]
    cases h : s.camera.call? f <;> simp [h]

end

end System
end MeeScanner
