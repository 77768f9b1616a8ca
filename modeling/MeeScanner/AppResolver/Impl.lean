import MeeScanner.History.UseCase

/-!
This module contains how a link is opened on Android: `AppResolver`, and the Open button of the
detail sheet of the history. An outcome holds the intents that `startActivity` is called with, also
if the call throws.
-/

namespace MeeScanner

structure Uri where
  text : String
  scheme : Option String
  path : Option String
  deriving DecidableEq, Repr

inductive Throwable where
  | nullPointerException
  | activityNotFoundException
  | other (name : String)
  deriving DecidableEq, Repr

namespace Intent

inductive Flag where
  | grantReadUriPermission
  | activityNewTask
  deriving DecidableEq, Repr

end Intent

structure Intent where
  action : String := "android.intent.action.VIEW"
  data : Uri
  type : Option String := none
  flags : List Intent.Flag := []
  deriving DecidableEq, Repr

namespace Intent

def setDataAndType (intent : Intent) (data : Uri) (type : String) : Intent :=
  { intent with data := data, type := some type }

def addFlags (intent : Intent) (flag : Flag) : Intent :=
  { intent with flags := intent.flags ++ [flag] }

end Intent

-- An activity is started with an intent, or with the chooser that `createChooser` puts around it.
inductive Start where
  | view (intent : Intent)
  | chooser (target : Intent) (title : String) (flags : List Intent.Flag)
  deriving DecidableEq, Repr

namespace Start

-- The chooser takes over the grants of its target.
def createChooser (target : Intent) (title : String) : Start :=
  .chooser target title (target.flags.filter (· = .grantReadUriPermission))

def addFlags (start : Start) (flag : Intent.Flag) : Start :=
  match start with
  | .view intent => .view (intent.addFlags flag)
  | .chooser target title flags => .chooser target title (flags ++ [flag])

def target : Start → Intent
  | .view intent => intent
  | .chooser target _ _ => target

end Start

structure Outcome where
  started : List Start := []
  toasts : List String := []
  thrown : Option Throwable := none
  deriving DecidableEq, Repr

-- What Android answers. The URIs that a `FileProvider` makes are content URIs.
structure Context where
  packageName : String
  parse : String → Uri
  getUriForFile : String → String → Except Throwable Uri
  startActivity : Start → Except Throwable Unit
  getUriForFile_content (authority file : String) (uri : Uri)
    : getUriForFile authority file = .ok uri → uri.scheme = some "content"

namespace AppResolver

def getApps (context : Context) (link : Option String) : Outcome :=
  match link with
  | none => { thrown := some .nullPointerException }
  | some link =>
    let intent : Intent := { data := context.parse link }
    let chooser := (Start.createChooser intent "Pay with").addFlags .activityNewTask
    match context.startActivity chooser with
    | .ok () => { started := [chooser] }
    | .error e => { started := [chooser], thrown := some e }

def convertToContentUri (context : Context) (uriString : String) : Except Throwable Uri :=
  let uri := context.parse uriString
  if uri.scheme = some "content" then
    .ok uri
  else
    match uri.path with
    | none => .error .nullPointerException
    | some path => context.getUriForFile (context.packageName ++ ".fileprovider") path

def getDocApp (context : Context) (link : Option String) : Outcome :=
  match link with
  | none => {}
  | some link =>
    match convertToContentUri context link with
    | .error e => { thrown := some e }
    | .ok uri =>
      let intent : Intent := { data := uri }
      let intent := intent.setDataAndType uri "application/pdf"
      let intent := (intent.addFlags .grantReadUriPermission).addFlags .activityNewTask
      match context.startActivity (.view intent) with
      | .ok () => { started := [.view intent] }
      | .error .activityNotFoundException =>
        { started := [.view intent], toasts := ["No PDF viewer found"] }
      | .error e => { started := [.view intent], thrown := some e }

end AppResolver

namespace QrViewModel

def processQr (context : Context) (rawValue : String) (_frame : Option Bitmap) : Outcome :=
  AppResolver.getApps context (some rawValue)

end QrViewModel

namespace DetailBottomSheet

-- `none` where the sheet has no Open button.
def openClicked (context : Context) (history : ScanHistoryEntity) : Option Outcome :=
  if history.scanType = AnalyzerType.qr.name ∨ history.scanType = AnalyzerType.document.name then
    some (QrViewModel.processQr context history.data none)
  else
    none

end DetailBottomSheet
end MeeScanner
