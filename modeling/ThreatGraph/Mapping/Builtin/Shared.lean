import ThreatGraph.Mapping.Builtin.Entry

/-!
# Built-in mapping: what all types share

The classes of the object types, the properties that every object may have, and the schemas of
nested objects, key-value maps and dictionaries.
-/

namespace ThreatGraph.Builtin

/-- The types of each class. -/
def classes : Classes where
  domain := [
    "attack-pattern", "campaign", "course-of-action", "grouping", "identity", "incident",
    "indicator", "infrastructure", "intrusion-set", "location", "malware", "malware-analysis",
    "note", "observed-data", "opinion", "report", "threat-actor", "tool", "vulnerability"]
  relationship := [
    "relationship", "sighting"]
  cyberObservable := [
    "artifact", "autonomous-system", "directory", "domain-name", "email-addr", "email-message",
    "file", "ipv4-addr", "ipv6-addr", "mac-addr", "mutex", "network-traffic", "process",
    "software", "url", "user-account", "windows-registry-key", "x509-certificate"]
  metaObject := [
    "marking-definition", "language-content", "extension-definition"]

/-- The properties that every object may have. -/
def commonAttributes : Table AttributeInfo := [
  unkept "type" "stix-type",
  text "id" "stix-id",
  text "spec_version" "spec-version",
  datetime "created" "created",
  datetime "modified" "modified",
  reference "created-by-ref" "created_by_ref" "object-created::creator",
  flag "revoked" "revoked",
  texts "labels" "label",
  long "confidence" "confidence",
  text "lang" "lang",
  composites "external-reference" "external_references" "external-reference",
  references "object-marking" "object_marking_refs" "marked::marking",
  composites "granular-marking" "granular_markings" "granular-marking",
  unkept "extensions" "extensions",
  flag "defanged" "defanged"]

/-- A nested object with its tie: relation, role of the owner, role of the nested object. -/
def nested (typeName relation ownerRole helperRole : String) (attributes : Table AttributeInfo) :
    String × CompositeMapping :=
  (typeName, { typeName, attributes, relation := ⟨relation, ownerRole, helperRole⟩ })

/-- The schemas of nested objects. -/
def compositeMappings : Table CompositeMapping := [
  nested "external-reference" "external-referencing" "referrer" "referenced" [
    text "source_name" "source-name",
    text "description" "description",
    text "url" "url-reference",
    keyed "hashes" "hashes" "hashes",
    text "external_id" "external-id"],
  nested "kill-chain-phase" "kill-chain-phase-usage" "phase-user" "used-phase" [
    text "kill_chain_name" "kill-chain-name",
    text "phase_name" "phase-name"],
  nested "granular-marking" "granular-marked" "marked" "marking" [
    text "lang" "lang",
    text "marking_ref" "marking-ref",
    texts "selectors" "selector"],
  nested "alternate-data-stream" "has-data-stream" "stream-owner" "stream" [
    text "name" "name",
    keyed "hashes" "hashes" "hashes",
    long "size" "size"],
  nested "windows-pe-section" "has-pe-section" "section-owner" "section" [
    text "name" "name",
    long "size" "size",
    double "entropy" "entropy",
    keyed "hashes" "hashes" "hashes"],
  nested "windows-registry-value" "has-registry-value" "registry-key" "registry-value" [
    text "name" "name",
    text "data" "data",
    text "data_type" "data-type"]]

/-- Hashes by algorithm; a hash by any other algorithm keeps the algorithm's name. -/
def hashes : KeyValueMapping where
  valueType := .scalar .string
  valueAttribute := "hash-value"
  keys := [
    ("MD5", "md5"),
    ("SHA-1", "sha-1"),
    ("SHA-256", "sha-256"),
    ("SHA-512", "sha-512"),
    ("SHA3-256", "sha3-256"),
    ("SHA3-512", "sha3-512"),
    ("SSDEEP", "ssdeep"),
    ("TLSH", "tlsh")]
  relation := ⟨"has-hash", "resource", "hash"⟩
  custom := some ⟨"custom-hash", "hash-name"⟩

/-- The key-value schemas. -/
def keyValues : Table KeyValueMapping := [("hashes", hashes)]

/-- How dictionaries are kept: a value is an item of its type's kind. -/
def dictionaryMapping : DictionaryMapping where
  keyAttribute := "item-key"
  propertyAttribute := "name"
  relation := ⟨"has-dictionary", "owner", "item"⟩
  items := [
    ("string", ⟨"string-item", "string-item-value"⟩),
    ("long", ⟨"int-item", "int-item-value"⟩),
    ("double", ⟨"float-item", "float-item-value"⟩),
    ("boolean", ⟨"boolean-item", "boolean-item-value"⟩),
    ("datetime", ⟨"date-item", "date-item-value"⟩)]

end ThreatGraph.Builtin
