import Decisioning.Text.Blank

/-!
# Surfaces

A surface is a place in an application that content can be delivered for. It
is named by a URI and by nothing else.

Any text can be a surface, but only a valid one is ever requested. `isValid`
splits the text at the first scheme separator; a later separator belongs to the
rest.

## Main definitions

* `Surface`: A surface.
* `Surface.forApp`, `Surface.fromPath`: The surfaces of an application.
* `splitScheme?`: A text cut at the first scheme separator.
* `Surface.isValid`: Whether the URI has the form scheme, separator, rest.
-/

namespace Decisioning

/-- A content slot, identified by its URI. -/
structure Surface where
  uri : String
deriving DecidableEq, Repr, Inhabited

/-- What stands before and after the first scheme separator of a text. -/
def splitScheme? : List Char → Option (List Char × List Char)
  | [] => none
  | ':' :: '/' :: '/' :: rest => some ([], rest)
  | c :: rest => (splitScheme? rest).map fun (scheme, rest) => (c :: scheme, rest)

/-- The characters of a scheme: ASCII letters, digits, plus, minus and dot. -/
def isSchemeChar (c : Char) : Bool :=
  c.isAlphanum || c = '+' || c = '-' || c = '.'

namespace Surface

/-- The scheme of the surfaces that belong to an application, with its
    separator. -/
def appScheme : String := "mobileapp://"

/-- The default surface of an application. -/
def forApp (appId : String) : Surface := ⟨appScheme ++ appId⟩

/-- The surface at a path below the default surface. Leading slashes of the path
    are dropped; without a path there is no surface, and the result is empty and
    invalid. -/
def fromPath (appId path : String) : Surface :=
  if path.isEmpty then ⟨""⟩
  else ⟨(forApp appId).uri ++ "/" ++ String.ofList (path.toList.dropWhile (· = '/'))⟩

/-- Whether the URI is a non-empty scheme and a non-empty rest without white
    space. -/
def isValid (s : Surface) : Bool :=
  match splitScheme? s.uri.toList with
  | none => false
  | some (scheme, rest) =>
      !scheme.isEmpty && !rest.isEmpty && scheme.all isSchemeChar
        && !rest.any isWhiteSpace

end Surface

end Decisioning
