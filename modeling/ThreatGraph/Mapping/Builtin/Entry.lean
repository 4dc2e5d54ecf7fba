import ThreatGraph.Mapping.Document

/-!
# Entries of the built-in documents

Short forms for attribute entries: the property, its name in the target schema, and what its
values are by the form's own name.
-/

namespace ThreatGraph.Builtin

/-- An entry under a property's name. -/
def entry (valueType : ValueType) (property name : String) : String × AttributeInfo :=
  (property, { name, valueType })

/-- A truth value. -/
def flag : String → String → String × AttributeInfo := entry (.scalar .boolean)

/-- An integer. -/
def long : String → String → String × AttributeInfo := entry (.scalar .long)

/-- A number. -/
def double : String → String → String × AttributeInfo := entry (.scalar .double)

/-- A text. -/
def text : String → String → String × AttributeInfo := entry (.scalar .string)

/-- A list of texts. -/
def texts : String → String → String × AttributeInfo := entry (.list (.scalar .string))

/-- An instant. -/
def datetime : String → String → String × AttributeInfo := entry (.scalar .datetime)

/-- A reference by relations of a type, under a pair of roles. -/
def reference (typeName : String) : String → String → String × AttributeInfo :=
  entry (.relation typeName)

/-- A list of references by relations of a type, under a pair of roles. -/
def references (typeName : String) : String → String → String × AttributeInfo :=
  entry (.list (.relation typeName))

/-- A list of nested objects of a schema. -/
def composites (schema : String) : String → String → String × AttributeInfo :=
  entry (.list (.composite schema))

/-- A key-value map of a schema. -/
def keyed (schema : String) : String → String → String × AttributeInfo :=
  entry (.keyValue schema)

/-- A dictionary. -/
def dictionary : String → String → String × AttributeInfo := entry .dictionary

/-- A property that is not kept. -/
def unkept : String → String → String × AttributeInfo := entry .empty

/-- A property that names role players. -/
def player : String → String → String × AttributeInfo := entry .roleplayer

end ThreatGraph.Builtin
