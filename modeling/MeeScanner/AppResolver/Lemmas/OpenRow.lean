import MeeScanner.AppResolver.Impl

/-!
This module contains the comparison of the two ways to open a document: `getDocApp` on its link and
the Open button on the row that is stored for it.
-/

namespace MeeScanner

/--
What the app that opens a link is given, whether or not it was picked in a chooser.
-/
structure Handed where
  data : Uri
  type : Option String
  grantsRead : Bool
  deriving DecidableEq, Repr

def Intent.handed (intent : Intent) : Handed where
  data := intent.data
  type := intent.type
  grantsRead := intent.flags.contains .grantReadUriPermission

namespace Outcome

def handed (outcome : Outcome) : List Handed := outcome.started.map (·.target.handed)

structure Same (outcome outcome' : Outcome) : Prop where
  handed : outcome.handed = outcome'.handed
  toasts : outcome.toasts = outcome'.toasts
  thrown : outcome.thrown = outcome'.thrown

structure OpensDocument (outcome : Outcome) (pdfUri : Option String) : Prop where
  null : pdfUri = none → outcome.handed = []
  document : pdfUri ≠ none → ∀ handed ∈ outcome.handed,
    handed.data.scheme = some "content" ∧ handed.type = some "application/pdf"
      ∧ handed.grantsRead = true
  noFileUri : ∀ handed ∈ outcome.handed, handed.data.scheme ≠ some "file"

theorem Same.opensDocument {outcome outcome' : Outcome} {pdfUri : Option String}
    (hsame : outcome.Same outcome') (h : outcome'.OpensDocument pdfUri)
    : outcome.OpensDocument pdfUri := by
  have heq := hsame.handed
  constructor
  . rw [heq]
    exact h.null
  . rw [heq]
    exact h.document
  . rw [heq]
    exact h.noFileUri

end Outcome

namespace AppResolver

variable (context : Context)

theorem convertToContentUri_scheme {uriString : String} {uri : Uri}
    (h : convertToContentUri context uriString = .ok uri)
    : uri.scheme = some "content" := by
  simp only [convertToContentUri] at h
  split at h
  next hcontent =>
    injection h with h
    rw [← h, hcontent]
  next =>
    split at h
    . contradiction
    next path hpath => exact context.getUriForFile_content _ path uri h

theorem getApps_handed (link : String)
    : (getApps context (some link)).handed
        = [{ data := context.parse link, type := none, grantsRead := false }] := by
  simp only [getApps]
  split <;> rfl

theorem getDocApp_handed (link : String)
    : (getDocApp context (some link)).handed
        = match convertToContentUri context link with
          | .error _ => []
          | .ok uri => [{ data := uri, type := some "application/pdf", grantsRead := true }] := by
  simp only [getDocApp]
  cases convertToContentUri context link with
  | error e => rfl
  | ok uri =>
    dsimp only
    split <;> rfl

theorem getDocApp_opensDocument (link : Option String)
    : (getDocApp context link).OpensDocument link := by
  cases link with
  | none => exact ⟨fun _ => rfl, by simp, by simp [getDocApp, Outcome.handed]⟩
  | some link =>
    have hhanded := getDocApp_handed context link
    cases huri : convertToContentUri context link with
    | error e =>
      rw [huri] at hhanded
      exact ⟨by simp, by simp [hhanded], by simp [hhanded]⟩
    | ok uri =>
      rw [huri] at hhanded
      have hscheme := convertToContentUri_scheme context huri
      exact ⟨by simp, by simp [hhanded, hscheme], by simp [hhanded, hscheme]⟩

theorem getApps_not_opensDocument (pdfUri : Option String)
    : ¬(getApps context (some (pdfUri.getD ""))).OpensDocument pdfUri := by
  intro h
  have hhanded := getApps_handed context (pdfUri.getD "")
  cases pdfUri with
  | none =>
    have hnull := h.null rfl
    rw [hhanded] at hnull
    contradiction
  | some link =>
    rw [Option.getD_some] at h hhanded
    have hdocument := h.document (by simp)
    rw [hhanded] at hdocument
    have ⟨_, htype, _⟩ := hdocument _ List.mem_cons_self
    contradiction

end AppResolver

namespace DetailBottomSheet

/--
The row that is stored for a document when the clock reads `now`, with the id of its insertion.
-/
def storedRow (pageCount : Int) (pdfUri : Option String) (pages : List ScannedDocumentPage)
    (now id : Int)
    : ScanHistoryEntity :=
  {
    ScanHistoryUseCase.saveHistory (.documentResult pageCount pdfUri pages) .document now with
    id := id
  }

/--
Opening the row is what `getDocApp` does with the link, and opens the document.
-/
structure OpensAlike (context : Context) (pdfUri : Option String) (row : ScanHistoryEntity)
    : Prop where
  same : ∃ outcome ∈ openClicked context row,
    outcome.Same (AppResolver.getDocApp context pdfUri)
  opens : ∃ outcome ∈ openClicked context row, outcome.OpensDocument pdfUri

theorem openClicked_storedRow (context : Context) (pageCount : Int) (pdfUri : Option String)
    (pages : List ScannedDocumentPage) (now id : Int)
    : openClicked context (storedRow pageCount pdfUri pages now id)
        = some (AppResolver.getApps context (some (pdfUri.getD ""))) := by
  simp [openClicked, storedRow, ScanHistoryUseCase.saveHistory, QrViewModel.processQr]

theorem not_opensAlike (context : Context) (pageCount : Int) (pdfUri : Option String)
    (pages : List ScannedDocumentPage) (now id : Int)
    : ¬OpensAlike context pdfUri (storedRow pageCount pdfUri pages now id) := by
  intro h
  rcases h.same with ⟨outcome, hopened, hsame⟩
  rw [openClicked_storedRow] at hopened
  injection hopened with hopened
  subst hopened
  have hopens := hsame.opensDocument (AppResolver.getDocApp_opensDocument context pdfUri)
  exact AppResolver.getApps_not_opensDocument context pdfUri hopens

def fileLink : String := "file:///data/user/0/com.appgolive.meescanner/cache/1.pdf"

def pdfDevice : Context where
  packageName := "com.appgolive.meescanner"
  parse := fun text =>
    if text = fileLink then
      {
        text := text
        scheme := some "file"
        path := some "/data/user/0/com.appgolive.meescanner/cache/1.pdf"
      }
    else
      { text := text, scheme := none, path := some text }
  getUriForFile := fun _ _ =>
    .ok {
      text := "content://com.appgolive.meescanner.fileprovider/mlkit_docs/1.pdf"
      scheme := some "content"
      path := some "/mlkit_docs/1.pdf"
    }
  startActivity := fun _ => .ok ()
  getUriForFile_content := by
    intro authority file uri h
    injection h with h
    rw [← h]

theorem fileLink_not_opensAlike
    : ¬OpensAlike pdfDevice (some fileLink) (storedRow 1 (some fileLink) [] 5 1) := by
  intro h
  rcases h.same with ⟨outcome, hopened, hsame⟩
  have hclicked
      : openClicked pdfDevice (storedRow 1 (some fileLink) [] 5 1)
          = some (AppResolver.getApps pdfDevice (some fileLink)) := by decide
  rw [hclicked] at hopened
  injection hopened with hopened
  subst hopened
  exact absurd hsame.handed (by decide)

end DetailBottomSheet
end MeeScanner
