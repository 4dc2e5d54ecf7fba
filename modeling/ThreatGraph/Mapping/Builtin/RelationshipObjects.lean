import ThreatGraph.Mapping.Builtin.Entry

/-!
# Built-in mapping: relationship objects

What becomes of the properties of STIX relationship objects, and which roles their role players
play in relations of each type. A relationship is stored under the type that its kind names, and
under a type for all others if its kind is none of these.
-/

namespace ThreatGraph.Builtin

/-- Objects of the type relationship. -/
def relationshipObject : ObjectMapping where
  typeName := "stix-relationship-object"
  subtypes := some {
    property := "relationship_type"
    values := [
      ("uses", "uses"), ("attributed-to", "attributed-to"), ("targets", "targets"),
      ("indicates", "indicates"), ("mitigates", "mitigates"), ("remediates", "remediates"),
      ("derived-from", "derived-from"), ("duplicate-of", "duplicate-of"),
      ("related-to", "related-to"), ("delivers", "delivers"), ("variant-of", "variant-of"),
      ("compromises", "compromises"), ("originates-from", "originates-from"),
      ("investigates", "investigates"), ("located-at", "located-at"), ("based-on", "based-on"),
      ("communicates-with", "communicates-with"), ("consists-of", "consists-of"),
      ("controls", "controls"), ("has", "has"), ("hosts", "hosts"), ("owns", "owns"),
      ("authored-by", "authored-by"), ("beacons-to", "beacons-to"),
      ("exfiltrates-to", "exfiltrates-to"), ("downloads", "downloads"), ("drops", "drops"),
      ("exploits", "exploits"), ("characterizes", "characterizes"),
      ("analysis-of", "analysis-of"), ("static-analysis-of", "static-analysis-of"),
      ("dynamic-analysis-of", "dynamic-analysis-of"), ("impersonates", "impersonates"),
      ("_", "custom-relationship")] }
  attributes := [
    unkept "relationship_type" "relationship-type",
    text "description" "description",
    datetime "start_time" "start-time",
    datetime "stop_time" "stop-time",
    player "source_ref" "source",
    player "target_ref" "target"]

/-- Objects of the type sighting. -/
def sightingObject : ObjectMapping where
  typeName := "sighting"
  attributes := [
    text "description" "description",
    datetime "first_seen" "first-seen",
    datetime "last_seen" "last-seen",
    long "count" "count",
    flag "summary" "summary",
    player "sighting_of_ref" "sighting-of",
    player "observed_data_refs" "observed",
    player "where_sighted_refs" "sighted-at"]

/-- All of them. -/
def relationshipObjects : Table ObjectMapping := [
  ("relationship", relationshipObject),
  ("sighting", sightingObject)]

/-- The roles of source and target in relationships of a type. -/
def endRoles (typeName source target : String) : String × Table String :=
  (typeName, [("source_ref", source), ("target_ref", target)])

/-- The roles by type of relation and property. -/
def relationRoles : RoleTable := [
  endRoles "uses" "user" "used",
  endRoles "attributed-to" "attributee" "attribution",
  endRoles "targets" "targeting" "targeted",
  endRoles "indicates" "indicating" "indicated",
  endRoles "mitigates" "mitigating" "mitigated",
  endRoles "remediates" "remediating" "remediated",
  endRoles "derived-from" "deriving" "derived",
  endRoles "duplicate-of" "duplicate" "duplicated",
  endRoles "related-to" "relating" "related",
  endRoles "delivers" "delivering" "delivered",
  endRoles "variant-of" "variant" "variant-source",
  endRoles "compromises" "compromising" "compromised",
  endRoles "originates-from" "originating" "origin",
  endRoles "investigates" "investigating" "investigated",
  endRoles "located-at" "located" "location-of",
  endRoles "based-on" "basing" "base",
  endRoles "communicates-with" "communicating" "communicated",
  endRoles "consists-of" "whole" "part",
  endRoles "controls" "controlling" "controlled",
  endRoles "has" "having" "had",
  endRoles "hosts" "hosting" "hosted",
  endRoles "owns" "owning" "owned",
  endRoles "authored-by" "authored" "author-of",
  endRoles "beacons-to" "beaconing" "beacon-target",
  endRoles "exfiltrates-to" "exfiltrating" "exfiltration-target",
  endRoles "downloads" "downloading" "downloaded",
  endRoles "drops" "dropping" "dropped",
  endRoles "exploits" "exploiting" "exploited",
  endRoles "characterizes" "characterizing" "characterized",
  endRoles "analysis-of" "analysing" "analysed",
  endRoles "static-analysis-of" "static-analysing" "static-analysed",
  endRoles "dynamic-analysis-of" "dynamic-analysing" "dynamic-analysed",
  endRoles "impersonates" "impersonating" "impersonated",
  endRoles "custom-relationship" "source" "target",
  ("sighting", [("sighting_of_ref", "sighting-of"),
    ("observed_data_refs", "observed"),
    ("where_sighted_refs", "sighted-at")])]

end ThreatGraph.Builtin
