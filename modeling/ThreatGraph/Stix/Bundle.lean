import ThreatGraph.Json.Reader
import ThreatGraph.Timestamp

/-!
# Bundles

A bundle is an object of type `bundle` that lists objects, or simply the list of them. Two
properties of older versions of the format are moved to where newer versions have them, among the
extensions: those of certificates and the content of marking definitions. An object that claims to
be from the future, that is from the start of the reading or later, is dated back.
-/

namespace ThreatGraph

/-- What is wrong with an entry of a bundle. -/
inductive EntryDefect where
  | notAnObject
  | extensionsNotAnObject
  | noDefinitionType
  | unknownDefinitionType (name : String)
  deriving DecidableEq, Repr

/-- The defect in words. -/
def EntryDefect.message : EntryDefect → String
  | .notAnObject => "not a JSON object"
  | .extensionsNotAnObject => "extensions must be an object"
  | .noDefinitionType => "a legacy marking definition needs a definition_type"
  | .unknownDefinitionType name => "unsupported marking definition type '" ++ name ++ "'"

/-- Why a bundle cannot be read. -/
inductive BundleDefect where
  /-- there is no text at `path` -/
  | unreadable (path : String)
  /-- the text is no JSON -/
  | malformed (source : String)
  /-- the value is neither a bundle nor a list -/
  | notABundle (source : String)
  /-- an entry cannot be used -/
  | entry (source : String) (index : Nat) (defect : EntryDefect)
  deriving DecidableEq, Repr

/-- The defect in words. -/
def BundleDefect.message (defect : BundleDefect) : String :=
  "[ParsingError] " ++
    match defect with
    | .unreadable path => "failed to read " ++ path
    | .malformed source => "invalid JSON in " ++ source
    | .notABundle source => source ++ " is not a STIX bundle"
    | .entry source index defect =>
      "object #" ++ toString index ++ " in " ++ source ++ ": " ++ defect.message

namespace Stix

/-- The date of objects that claim to be from the future. -/
def baseTime : String := "1970-01-01T00:00:00Z"

/-- The object with a member among its extensions. -/
def setExtension (object : Members) (name : String) (content : Json) :
    Except EntryDefect Members :=
  match object.get? "extensions" with
  | none => .ok (object ++ [("extensions", .object [(name, content)])])
  | some (.object extensions) =>
    .ok (Table.set object "extensions" (.object (Table.set extensions name content)))
  | some _ => .error .extensionsNotAnObject

/-- A certificate with its extensions where newer versions have them. -/
def modernCertificate (object : Members) : Except EntryDefect Members :=
  let moved := "x509_v3_extensions"
  match object.get? moved with
  | none => .ok object
  | some content => setExtension (Table.swapErase object moved) "x509-v3-extensions" content

/-- A marking definition with its content where newer versions have it. -/
def modernMarking (object : Members) : Except EntryDefect Members :=
  let moved := "definition"
  match object.get? moved with
  | none => .ok object
  | some content =>
    let object : Members := Table.swapErase object moved
    match object.text? "definition_type" with
    | none => .error .noDefinitionType
    | some kind =>
      if kind = "tlp" ∨ kind = "statement" then
        setExtension object ("definition-" ++ kind) content
      else .error (.unknownDefinitionType kind)

/-- An object in the layout of newer versions. -/
def modernLayout (object : Members) : Except EntryDefect Members :=
  match object.text? "type" with
  | some "x509-certificate" => modernCertificate object
  | some "marking-definition" => modernMarking object
  | _ => .ok object

/-- The object with the date in `property` put back if it is not before `start`. What is no
timestamp is left as it is. -/
def dateBack (start : Int) (object : Members) (property : String) : Members :=
  match (object.text? property).map Timestamp.parse with
  | some (.ok t) =>
    if start ≤ t.instant then Table.set object property (.string baseTime) else object
  | _ => object

/-- The object of an entry, in the layout of newer versions and dated before `start`. -/
def adopt (start : Int) : Json → Except EntryDefect Members
  | .object members => do
    let object ← modernLayout members
    return ["created", "modified"].foldl (dateBack start) object
  | _ => .error .notAnObject

/-- The objects of entries, counted from `index`. -/
def adoptAll (source : String) (start : Int) (index : Nat) :
    List Json → Except BundleDefect (List Members)
  | [] => .ok []
  | entry :: rest => do
    let first ← (adopt start entry).mapError (.entry source index)
    let others ← adoptAll source start (index + 1) rest
    return first :: others

/-- The entries of a bundle. -/
def entriesOf (source : String) : Json → Except BundleDefect (List Json)
  | .array entries => .ok entries
  | .object bundle =>
    if Members.text? bundle "type" = some "bundle" then
      match Members.get? bundle "objects" with
      | none => .ok []
      | some (.array entries) => .ok entries
      | some _ => .error (.notABundle source)
    else .error (.notABundle source)
  | _ => .error (.notABundle source)

/-- The objects that a text from `source` lists, if the reading starts at the instant `start`. -/
def readBundle (source : String) (start : Int) (text : String) :
    Except BundleDefect (List Members) :=
  match Json.read? Json.depthLimit text with
  | none => .error (.malformed source)
  | some value => do
    let entries ← entriesOf source value
    adoptAll source start 0 entries

end Stix

end ThreatGraph
