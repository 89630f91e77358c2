import Shortlink.Url.Host

/-!
# Paths

A path is a list of segments, each with a slash in front, or a text without structure. A segment
`.` means the place where it stands and `..` the one above; both may be written with percent signs.
-/

namespace Shortlink.Url

/-- The path of a URL. -/
inductive Path
  | unstructured (text : String)
  | segments (segs : List String)
deriving DecidableEq, Repr

namespace Path

/-- The path as it is written. -/
def text : Path → String
  | .unstructured text => text
  | .segments segs => String.join (segs.map ("/" ++ ·))

/-- Whether a path is written with two slashes in front. -/
def beginsWithSlashes : Path → Bool
  | .segments ("" :: _ :: _) => true
  | _ => false

/-- Whether a segment means the place where it stands. -/
def isSingleDot (seg : List Char) : Bool :=
  seg = ['.'] || seg.map Char.toLower = ['%', '2', 'e']

/-- Whether a segment means the place above. -/
def isDoubleDot (seg : List Char) : Bool :=
  ["..", ".%2e", "%2e.", "%2e%2e"].any (·.toList == seg.map Char.toLower)

/-- Whether a segment is the letter of a drive, with a colon or a bar. -/
def isDriveLetter : List Char → Bool
  | [c, d] => c.isAlpha && (d == ':' || d == '|')
  | _ => false

/-- The segments without the last one. Where that is the letter of a drive it stays. -/
def above (segs : List (List Char)) : List (List Char) :=
  match segs.getLast? with
  | some last => if isDriveLetter last then segs else segs.dropLast
  | none => segs

/-- Adds a segment to those in front of it. `file` tells paths of files, in which the letter of a
drive comes first and has a colon, and `last` tells that nothing follows. -/
def addSegment (file last : Bool) (segs : List (List Char)) (seg : List Char) : List (List Char) :=
  if isDoubleDot seg then if last then above segs ++ [[]] else above segs
  else if isSingleDot seg then if last then segs ++ [[]] else segs
  else if file && segs.isEmpty && isDriveLetter seg then [[seg.headD ':', ':']]
  else segs ++ [seg]

/-- The path of the segments that are written one after the other. -/
def resolve (file : Bool) (segs : List (List Char)) : List (List Char) → List (List Char)
  | [] => segs
  | [seg] => addSegment file true segs seg
  | seg :: rest => resolve file (addSegment file false segs seg) rest

/-- Empty segments do not begin the path of a file. -/
def dropEmptyFront : List (List Char) → List (List Char)
  | [] :: seg :: rest => dropEmptyFront (seg :: rest)
  | segs => segs

/-- The segments of a text that stands behind the first slash. -/
def parse (file special : Bool) (cs : List Char) : List (List Char) :=
  let pieces := Text.pieces (fun c => c == '/' || (special && c == '\\')) cs
  resolve file [] (pieces.map (percentEncode EncodeSet.path))

/-- Whether a path of a file begins with the letter of a drive. -/
def hasDrive (segs : List (List Char)) : Bool :=
  (segs.head?.map isDriveLetter).getD false

/-- The segments without an empty one at the end, which stands for a slash at the end. -/
def withoutTrailingSlash (segs : List String) : List String :=
  match segs.getLast? with
  | some last => if last.isEmpty ∧ segs.length ≠ 1 then segs.dropLast else segs
  | none => segs

/-- Whether a text that is put in as a segment is left out. -/
def isSkipped (seg : String) : Bool := seg = "." || seg = ".."

/-- The segments with one more behind them. Tabs and line ends are dropped from it; what is left
may mean the place above. -/
def extend (file special : Bool) (segs : List String) (seg : String) : List String :=
  if isSkipped seg then segs
  else
    let set := if special then EncodeSet.specialSegment else EncodeSet.segment
    let kept := seg.toList.filter fun c => !(c == '\t' || c == '\n' || c == '\r')
    let front := if segs = [""] then [] else segs.map String.toList
    let result := addSegment file true front (percentEncode set kept)
    (if file then dropEmptyFront result else result).map String.ofList

end Path

end Shortlink.Url
