/-!
# Short links

What the server knows about: a short link maps a key to a long URL. A link is kept only while it is
on the panel. The values here carry no behaviour of their own beyond what a status means.
-/

namespace Shortlink

/-- The key of a short link. -/
abbrev Key := String

/-- A shortened URL as the server has answered it. -/
structure ShortLink where
  key : Key
  shortUrl : String
  /-- The mapping did not exist before. -/
  created : Bool
  longUrl : Option String
deriving DecidableEq, Repr

/-- How a deletion ended. -/
inductive Removal
  | deleted
  | notFound
  | failed
deriving DecidableEq, Repr

/-- What became of a link, by the status of the response. -/
def Removal.ofStatus (status : UInt16) : Removal :=
  if status = 200 then .deleted
  else if status = 404 then .notFound
  else .failed

/-- Whether the link is gone, so that the panel must not show it any longer. -/
def Removal.isGone : Removal → Bool
  | .deleted | .notFound => true
  | .failed => false

/-- The count shown when the server cannot be asked how many links it holds. -/
def unknownCount : Int64 := -1

end Shortlink
