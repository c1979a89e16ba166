import DatasetCatalog.Text.Pattern

/-!
# Principals

The owner of an entity is a principal of the form `name[/instance][@REALM]`. No component is empty
or contains a slash or an at sign; every other character is allowed.

A text is accepted if `Principal.pattern` matches it. `Principal.parts?` are the components that the
groups of the pattern capture, and `Principal.Parts.text` puts them together again.
-/

namespace DatasetCatalog

/-- A principal as it was given; it need not be well formed. -/
structure Principal where
  text : String
  deriving DecidableEq, Repr

/-- Why a text is no principal. -/
inductive PrincipalError
  | empty
  | malformed (text : String)
  deriving DecidableEq, Repr

/-- The error in words. -/
def PrincipalError.message : PrincipalError → String
  | .empty => "Principal must not be empty"
  | .malformed text =>
    "Malformed Kerberos principal '" ++ text ++ "': expected name[/instance][@REALM]"

namespace Principal

/-- The components of a principal. -/
structure Parts where
  shortName : List Char
  instanceName : Option (List Char)
  realm : Option (List Char)
  deriving DecidableEq, Repr

/-- The text of components. -/
def Parts.text (p : Parts) : List Char :=
  p.shortName ++ (p.instanceName.elim [] ('/' :: ·)) ++ (p.realm.elim [] ('@' :: ·))

/-- A component: `[^/@]+`. -/
def component : Pattern := .oneOrMore (.noneOf ['/', '@'])

/-- The form of a principal: `([^/@]+)(?:/([^/@]+))?(?:@([^/@]+))?`. -/
def pattern : Pattern :=
  .seq (.group 1 component)
    (.seq (.optional (.seq (.char '/') (.group 2 component)))
      (.optional (.seq (.char '@') (.group 3 component))))

/-- The components that are captured. -/
def Parts.ofGroups (gs : Captures) : Parts where
  shortName := (gs.lookup 1).getD []
  instanceName := gs.lookup 2
  realm := gs.lookup 3

/-- The components of a text, if it is well formed. -/
def partsOf? (cs : List Char) : Option Parts := (pattern.captures? cs).map Parts.ofGroups

/-- The components of a principal, if it is well formed. -/
def parts? (p : Principal) : Option Parts := partsOf? p.text.toList

/-- Checks that a principal is well formed. -/
def validate (p : Principal) : Except PrincipalError Unit :=
  if p.text.isEmpty then .error .empty
  else if pattern.accepts p.text.toList then .ok ()
  else .error (.malformed p.text)

/-- The primary component. -/
def shortName? (p : Principal) : Option String := p.parts?.map (String.ofList ·.shortName)

/-- The instance component. -/
def instance? (p : Principal) : Option String :=
  p.parts?.bind fun ps => ps.instanceName.map String.ofList

/-- The realm. -/
def realm? (p : Principal) : Option String :=
  p.parts?.bind fun ps => ps.realm.map String.ofList

end Principal

end DatasetCatalog
