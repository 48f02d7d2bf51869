/-!
The names of the federation protocol: its types, root fields and directives.
-/

namespace Subgraph.Federation

def typenameKey : String := "__typename"

def anyScalar : String := "_Any"
def fieldSetScalar : String := "_FieldSet"
def serviceType : String := "_Service"
def entityUnion : String := "_Entity"

def serviceField : String := "_service"
def entitiesField : String := "_entities"

def keyDirective : String := "key"
def extendsDirective : String := "extends"

def typeNames : List String := [anyScalar, fieldSetScalar, serviceType, entityUnion]
def fieldNames : List String := [serviceField, entitiesField]
def directiveNames : List String :=
  [keyDirective, extendsDirective, "external", "requires", "provides"]

def isTypeName (name : String) : Bool := typeNames.contains name
def isFieldName (name : String) : Bool := fieldNames.contains name
def isDirectiveName (name : String) : Bool := directiveNames.contains name

end Subgraph.Federation
