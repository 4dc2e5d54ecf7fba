import ThreatGraph.Mapping.Builtin.Entry

/-!
# Built-in mapping: domain objects

What becomes of the properties of STIX domain objects.
-/

namespace ThreatGraph.Builtin

/-- Objects of the type attack-pattern. -/
def attackPatternObject : ObjectMapping where
  typeName := "attack-pattern"
  attributes := [
    text "name" "name",
    text "description" "description",
    texts "aliases" "alias",
    composites "kill-chain-phase" "kill_chain_phases" "kill-chain-phase"]

/-- Objects of the type campaign. -/
def campaignObject : ObjectMapping where
  typeName := "campaign"
  attributes := [
    text "name" "name",
    text "description" "description",
    texts "aliases" "alias",
    datetime "first_seen" "first-seen",
    datetime "last_seen" "last-seen",
    text "objective" "objective"]

/-- Objects of the type course-of-action. -/
def courseOfActionObject : ObjectMapping where
  typeName := "course-of-action"
  attributes := [
    text "name" "name",
    text "description" "description"]

/-- Objects of the type grouping. -/
def groupingObject : ObjectMapping where
  typeName := "grouping"
  attributes := [
    text "name" "name",
    text "description" "description",
    text "context" "context",
    references "object-ref" "object_refs" "referrer::referenced-object"]

/-- Objects of the type identity. -/
def identityObject : ObjectMapping where
  typeName := "identity"
  attributes := [
    text "name" "name",
    text "description" "description",
    texts "roles" "stix-role",
    text "identity_class" "identity-class",
    texts "sectors" "sector",
    text "contact_information" "contact-information"]

/-- Objects of the type incident. -/
def incidentObject : ObjectMapping where
  typeName := "incident"
  attributes := [
    text "name" "name",
    text "description" "description",
    composites "kill-chain-phase" "kill_chain_phases" "kill-chain-phase"]

/-- Objects of the type indicator. -/
def indicatorObject : ObjectMapping where
  typeName := "indicator"
  attributes := [
    text "name" "name",
    text "description" "description",
    texts "indicator_types" "indicator-type",
    text "pattern" "pattern",
    text "pattern_type" "pattern-type",
    text "pattern_version" "pattern-version",
    datetime "valid_from" "valid-from",
    datetime "valid_until" "valid-until",
    composites "kill-chain-phase" "kill_chain_phases" "kill-chain-phase"]

/-- Objects of the type infrastructure. -/
def infrastructureObject : ObjectMapping where
  typeName := "infrastructure"
  attributes := [
    text "name" "name",
    text "description" "description",
    texts "infrastructure_types" "infrastructure-type",
    texts "aliases" "alias",
    composites "kill-chain-phase" "kill_chain_phases" "kill-chain-phase",
    datetime "first_seen" "first-seen",
    datetime "last_seen" "last-seen"]

/-- Objects of the type intrusion-set. -/
def intrusionSetObject : ObjectMapping where
  typeName := "intrusion-set"
  attributes := [
    text "name" "name",
    text "description" "description",
    texts "aliases" "alias",
    datetime "first_seen" "first-seen",
    datetime "last_seen" "last-seen",
    texts "goals" "goal",
    text "resource_level" "resource-level",
    text "primary_motivation" "primary-motivation",
    texts "secondary_motivations" "secondary-motivation"]

/-- Objects of the type location. -/
def locationObject : ObjectMapping where
  typeName := "location"
  attributes := [
    text "name" "name",
    text "description" "description",
    double "latitude" "latitude",
    double "longitude" "longitude",
    double "precision" "precision",
    text "region" "region",
    text "country" "country",
    text "administrative_area" "administrative-area",
    text "city" "city",
    text "street_address" "street-address",
    text "postal_code" "postal-code"]

/-- Objects of the type malware. -/
def malwareObject : ObjectMapping where
  typeName := "malware"
  subtypes := some {
    property := "is_family"
    values := [
      ("true", "malware-family"), ("false", "malware-instance")] }
  attributes := [
    text "name" "name",
    text "description" "description",
    unkept "is_family" "is-family",
    texts "malware_types" "malware-type",
    texts "aliases" "alias",
    composites "kill-chain-phase" "kill_chain_phases" "kill-chain-phase",
    datetime "first_seen" "first-seen",
    datetime "last_seen" "last-seen",
    references "malware-operating-system" "operating_system_refs"
      "operated-malware::operating-system",
    texts "architecture_execution_envs" "architecture-execution-env",
    texts "implementation_languages" "implementation-language",
    texts "capabilities" "capability",
    references "malware-sample" "sample_refs" "sampled-malware::sample"]

/-- Objects of the type malware-analysis. -/
def malwareAnalysisObject : ObjectMapping where
  typeName := "malware-analysis"
  attributes := [
    text "product" "product",
    text "version" "version",
    text "configuration_version" "configuration-version",
    texts "modules" "module",
    text "analysis_engine_version" "analysis-engine-version",
    text "analysis_definition_version" "analysis-definition-version",
    datetime "submitted" "submitted",
    datetime "analysis_started" "analysis-started",
    datetime "analysis_ended" "analysis-ended",
    text "result_name" "result-name",
    text "result" "result",
    reference "analysis-sample" "sample_ref" "analysis::analysed-sample",
    references "analysis-capture" "analysis_sco_refs" "analysis::captured-object"]

/-- Objects of the type note. -/
def noteObject : ObjectMapping where
  typeName := "note"
  attributes := [
    text "abstract" "abstract",
    text "content" "content",
    texts "authors" "author",
    references "object-ref" "object_refs" "referrer::referenced-object"]

/-- Objects of the type observed-data. -/
def observedDataObject : ObjectMapping where
  typeName := "observed-data"
  attributes := [
    datetime "first_observed" "first-observed",
    datetime "last_observed" "last-observed",
    long "number_observed" "number-observed",
    references "object-ref" "object_refs" "referrer::referenced-object"]

/-- Objects of the type opinion. -/
def opinionObject : ObjectMapping where
  typeName := "opinion"
  attributes := [
    text "explanation" "explanation",
    texts "authors" "author",
    text "opinion" "opinion-value",
    references "object-ref" "object_refs" "referrer::referenced-object"]

/-- Objects of the type report. -/
def reportObject : ObjectMapping where
  typeName := "report"
  attributes := [
    text "name" "name",
    text "description" "description",
    texts "report_types" "report-type",
    datetime "published" "published",
    references "object-ref" "object_refs" "referrer::referenced-object"]

/-- Objects of the type threat-actor. -/
def threatActorObject : ObjectMapping where
  typeName := "threat-actor"
  attributes := [
    text "name" "name",
    text "description" "description",
    texts "threat_actor_types" "threat-actor-type",
    texts "aliases" "alias",
    datetime "first_seen" "first-seen",
    datetime "last_seen" "last-seen",
    texts "roles" "threat-actor-role",
    texts "goals" "goal",
    text "sophistication" "sophistication",
    text "resource_level" "resource-level",
    text "primary_motivation" "primary-motivation",
    texts "secondary_motivations" "secondary-motivation",
    texts "personal_motivations" "personal-motivation"]

/-- Objects of the type tool. -/
def toolObject : ObjectMapping where
  typeName := "tool"
  attributes := [
    text "name" "name",
    text "description" "description",
    texts "tool_types" "tool-type",
    texts "aliases" "alias",
    composites "kill-chain-phase" "kill_chain_phases" "kill-chain-phase",
    text "tool_version" "tool-version"]

/-- Objects of the type vulnerability. -/
def vulnerabilityObject : ObjectMapping where
  typeName := "vulnerability"
  attributes := [
    text "name" "name",
    text "description" "description"]

/-- All of them. -/
def domainObjects : Table ObjectMapping := [
  ("attack-pattern", attackPatternObject),
  ("campaign", campaignObject),
  ("course-of-action", courseOfActionObject),
  ("grouping", groupingObject),
  ("identity", identityObject),
  ("incident", incidentObject),
  ("indicator", indicatorObject),
  ("infrastructure", infrastructureObject),
  ("intrusion-set", intrusionSetObject),
  ("location", locationObject),
  ("malware", malwareObject),
  ("malware-analysis", malwareAnalysisObject),
  ("note", noteObject),
  ("observed-data", observedDataObject),
  ("opinion", opinionObject),
  ("report", reportObject),
  ("threat-actor", threatActorObject),
  ("tool", toolObject),
  ("vulnerability", vulnerabilityObject)]

end ThreatGraph.Builtin
