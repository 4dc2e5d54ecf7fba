import ThreatGraph.Mapping.Builtin.CyberObservables
import ThreatGraph.Mapping.Builtin.DomainObjects
import ThreatGraph.Mapping.Builtin.MetaObjects
import ThreatGraph.Mapping.Builtin.RelationshipObjects
import ThreatGraph.Mapping.Builtin.Shared
import ThreatGraph.Mapping.Loading

/-!
# The built-in mapping

The documents that are used where none are named.
-/

namespace ThreatGraph

/-- The built-in documents. -/
def Documents.builtin : Documents where
  classes := Builtin.classes
  domainObjects := Builtin.domainObjects
  relationshipObjects := Builtin.relationshipObjects
  cyberObservables := Builtin.cyberObservables
  metaObjects := Builtin.metaObjects
  commonAttributes := Builtin.commonAttributes
  composites := Builtin.compositeMappings
  relationRoles := Builtin.relationRoles
  keyValues := Builtin.keyValues
  dictionary := Builtin.dictionaryMapping

/-- The built-in mapping. -/
def Mapping.builtin : Except MappingDefect Mapping := ofDocuments .builtin

end ThreatGraph
