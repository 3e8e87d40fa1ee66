import NamedGrid.Operation.Session
import NamedGrid.Project.Glob
import NamedGrid.Utility.Sheet

/-!
# Building the stylesheet

A sheet is registered as the latest plugin while the generated utilities are handed to
all sinks. The static rules come first, then the rules of the bracketed classes in the
content files, in the order in which they are seen.
-/

namespace NamedGrid

/-- Where the text of a stylesheet goes. -/
inductive Destination
  /-- It is written to a file. -/
  | file (path : Path)
  /-- It is part of the report. -/
  | report (css : Text)
  deriving DecidableEq, Repr

/-- What a build reports. -/
structure BuildReport where
  /-- The number of layouts that have a class of their own. -/
  layouts : Nat
  areas : Nat
  rules : Nat
  /-- The number of bracketed classes that the content files use. -/
  bracketed : Nat
  filesScanned : Nat
  destination : Destination
  deriving DecidableEq, Repr

/-- The sheet as a kind of plugin. -/
def sheetBlueprint : Blueprint :=
  { className := "StylesheetSink".toList
    methods := [Hook.addUtilities, Hook.matchUtilities].map fun hook =>
      { name := hook.name, target := none, isOptional := false, parameters := hook.parameters }
    contribution := .nothing
    fails := false }

/-- The name under which the sheet is registered. -/
def sheetName : Text := "stylesheet".toList

/-- What handing utilities over to all sinks gives. -/
structure Dispatch where
  registry : Registry
  /-- The sheet that received them, or why not all were handed over. -/
  sheet : Except PluginError Sheet
  /-- What the other plugins received. -/
  receipts : List Receipt
  notices : List Notice

/-- Hand deliveries to all sinks and to a new sheet, which is unregistered at the end. -/
def Registry.dispatch (registry : Registry) (deliveries : List Delivery) : Dispatch :=
  let (plugin, registry) := registry.instantiate sheetBlueprint
  let step := registry.register plugin (some sheetName)
  match step.error with
  | some error => ⟨step.registry, .error error, [], step.notices⟩
  | none =>
    let (receipts, error) := step.registry.deliverAll deliveries
    let isOwn := fun receipt : Receipt => receipt.plugin.identity = plugin.identity
    { registry := (step.registry.unregister plugin).registry
      sheet :=
        match error with
        | some error => .error error
        | none => .ok (Sheet.empty.receiveAll ((receipts.filter isOwn).map Receipt.delivery))
      receipts := receipts.filter fun receipt => !isOwn receipt
      notices := step.notices }

namespace Session

/-- The content files that patterns find from the root of the project. -/
def contentFiles (session : Session) (patterns : List Text) : Except FileError (List Path) :=
  Glob.Ground.files ⟨session.tree, session.cwd, session.settings.root⟩ patterns

/-- The text of a content file; bytes that are no text become replacement characters. -/
def contentText (session : Session) (file : Path) : Text :=
  Utf8.unifyLines (Utf8.decodeLenient ((session.tree.bytes? session.cwd file).getD []))

/-- The sheet after the bracketed classes of files have been resolved. -/
def scanned (session : Session) (sheet : Sheet) (files : List Path) : Sheet :=
  files.foldl (fun sheet file => sheet.scan (session.contentText file)) sheet

/-- Write a stylesheet where it is to go. Directories that were made for it stay, also if
it cannot be written. -/
def deposit (session : Session) (css : Text) :
    Option Path → Session × Except FileError Destination
  | none => (session, .ok (.report css))
  | some path =>
    let done := session.tree.writeDeep session.cwd path (Utf8.encode css)
    ({ session with tree := done.tree },
      match done.error with
      | some error => .error error
      | none => .ok (.file path))

/-- Build the stylesheet, into a file if one is given. The patterns of the settings are
used if none are given. -/
def build (session : Session) (output : Option Path) (content : Option (List Text)) :
    Done (Answer BuildReport) :=
  let pass := session.generate
  let session := pass.session
  match pass.result with
  | .error error => ⟨.error error, session, [], pass.events⟩
  | .ok (.error fault) => ⟨.ok (.malformed fault), session, [], pass.events⟩
  | .ok (.ok generation) =>
    let dispatch := session.registry.dispatch generation.set.deliveries
    let session := { session with registry := dispatch.registry }
    let events := pass.events ++ dispatch.notices.map Event.notice
    match dispatch.sheet with
    | .error error => ⟨.error (.plugin error), session, dispatch.receipts, events⟩
    | .ok sheet =>
      match session.contentFiles (content.getD session.settings.build.content) with
      | .error error => ⟨.error (.file error), session, dispatch.receipts, events⟩
      | .ok files =>
        let sheet := session.scanned sheet files
        let (session, deposited) := session.deposit sheet.rules.render output
        { result := (deposited.mapError .file).map fun destination =>
            .report
              { layouts := generation.set.emittedLayouts.length
                areas := generation.set.areaNames.length
                rules := sheet.ruleCount
                bracketed := sheet.resolvedCount
                filesScanned := files.length
                destination }
              generation.warnings
          session
          receipts := dispatch.receipts
          events :=
            match deposited with
            | .error _ => events
            | .ok _ => events ++ [.built sheet.ruleCount sheet.resolvedCount] }

end Session

end NamedGrid
