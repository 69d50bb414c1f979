import SignIn.Text.Split

/-!
# Paths

The segments of a path lie between slashes. A segment of one dot stands for
nothing, and one of two dots takes the segment before it back. A dot may be
percent-encoded.
-/

namespace SignIn.Url.Path

/-- The segment with its encoded dots written as such. -/
def dots : List Char → List Char
  | '%' :: '2' :: 'e' :: rest => '.' :: dots rest
  | '%' :: '2' :: 'E' :: rest => '.' :: dots rest
  | c :: rest => c :: dots rest
  | [] => []

/-- Does the segment stand for the place itself? -/
def isSingle (segment : List Char) : Bool := dots segment == ['.']

/-- Does the segment lead back? -/
def isDouble (segment : List Char) : Bool := dots segment == ['.', '.']

/-- Walk along segments, from a place whose segments are given in reverse. The last segment is
where the walk ends, so if it is one of dots, an empty one takes its place. -/
def walk (place : List (List Char)) : List (List Char) → List (List Char)
  | [] => place.reverse
  | [last] =>
    if isDouble last then ([] :: place.tail).reverse
    else if isSingle last then ([] :: place).reverse
    else (last :: place).reverse
  | segment :: rest =>
    if isDouble segment then walk place.tail rest
    else if isSingle segment then walk place rest
    else walk (segment :: place) rest

/-- The path with these segments, each behind a slash. -/
def text (segments : List (List Char)) : List Char := segments.flatMap ('/' :: ·)

/-- The path that is written behind its first slash. -/
def ofWritten (cs : List Char) : List Char := text (walk [] (Split.pieces '/' cs))

end SignIn.Url.Path
