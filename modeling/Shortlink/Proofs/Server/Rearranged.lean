import Shortlink.Proofs.Json.Shapes
import Shortlink.Proofs.Server.Count
import Shortlink.Proofs.Server.Shorten

/-!
# Rearranged replies

A server may write the members of a reply in any order, put blanks between the tokens as it likes,
and add members that nobody asks for. The client reads a reply in two ways, as a value where it is
to be shown and as a record where something is taken from it, and in neither way does it make
something else of the reply.
-/

namespace Shortlink

open Json

/-! ## The records of a reply -/

/-- The fields of a count reply are read on their own. -/
lemma CountReply.lawful : shape.Lawful where
  confined := List.forall_mem_singleton.2 fun d => Field.confined_of confined_int64.optional d
  apart := List.pairwise_singleton _ _

/-- The fields of a link reply are read on their own. -/
lemma LinkReply.lawful : shape.Lawful where
  confined := by
    have own {name get put optional} (d : Draft) : Confined
        ((Field.of name (readOptional readString) get put optional).read d) :=
      Field.confined_of confined_string.optional d
    exact List.forall_mem_cons.2 ⟨own, List.forall_mem_cons.2 ⟨own,
      List.forall_mem_singleton.2 own⟩⟩
  apart := by
    refine List.pairwise_cons.2
      ⟨List.forall_mem_cons.2 ⟨?_, List.forall_mem_singleton.2 ?_⟩, List.pairwise_cons.2
        ⟨List.forall_mem_singleton.2 ?_, List.pairwise_singleton _ _⟩⟩
    -- each of the three is put into a place of its own
    all_goals exact Field.apart_of (fun _ _ => rfl) (fun _ _ => rfl) fun _ _ _ => rfl

/-- A count reply is read from its bytes as it is from its text. -/
lemma CountReply.readBytes_toOption (text : List Char) :
    (readBytes (Text.Utf8.encode text)).toOption = (read text).toOption := by
  ext r
  rw [← eq_ok_iff_toOption, ← eq_ok_iff_toOption, readBytes_encode_iff]

/-! ## What is made of a reply -/

namespace Server

/-- The request to shorten a URL is answered with this status and this text. -/
def AnswersLink (s : Server) (n : Network) (status : UInt16) (body : String) : Prop :=
  ∃ r, n.response? s.linksUrl = some r ∧ r.status = status ∧ r.text? = some body

/-- The question for the count is answered with this text. -/
def AnswersCount (s : Server) (n : Network) (body : String) : Prop :=
  ∃ r, n.response? s.countUrl = some r ∧ r.bytes? = some (Text.Utf8.encode body.toList)

/-- Shortening comes to the same with the one text in the reply and with the other. -/
def ShortensAlike (body body' : String) : Prop :=
  ∀ s n n' status input, AnswersLink s n status body → AnswersLink s n' status body' →
    ((s.shorten input).run n').value = ((s.shorten input).run n).value

/-- A link that comes with the one text in the reply comes with the other too. -/
def KeepsLinks (body body' : String) : Prop :=
  ∀ s n n' status input link, AnswersLink s n status body → AnswersLink s n' status body' →
    ((s.shorten input).run n).value = .ok link → ((s.shorten input).run n').value = .ok link

/-- The count is the same with the one text in the reply and with the other. -/
def CountsAlike (body body' : String) : Prop :=
  ∀ s n n', AnswersCount s n body → AnswersCount s n' body' →
    (s.count.run n').value = (s.count.run n).value

variable {body body' : String}

/-- The count of a response depends on nothing but what its body is read as. -/
lemma countOf_of_text {r : Response} (arrived : r.bytes? = some (Text.Utf8.encode body.toList)) :
    countOf r =
      ((CountReply.read body.toList).toOption.bind (·.count)).getD unknownCount := by
  rw [countOf, arrived, Option.map_some, ← CountReply.readBytes_toOption]
  cases CountReply.readBytes (Text.Utf8.encode body.toList) <;> rfl

/-- Texts that are read as the same count reply give the same count. -/
lemma countsAlike_of_read
    (same : (CountReply.read body'.toList).toOption = (CountReply.read body.toList).toOption) :
    CountsAlike body body' := by
  rintro s n n' ⟨r, responds, arrived⟩ ⟨r', responds', arrived'⟩
  rw [count_value, count_value, responds, responds']
  show countOf r' = countOf r
  rw [countOf_of_text arrived, countOf_of_text arrived', same]

/-- What is made of a response with a record in it depends on the status, the record, and what is
shown of the body. -/
lemma linkOf_congr {r r' : Response} (status : r'.status = r.status)
    (arrived : r.text? = some body) (arrived' : r'.text? = some body') {reply : LinkReply}
    (read : LinkReply.read body.toList = .ok reply)
    (read' : LinkReply.read body'.toList = .ok reply)
    (described : Payload.describeBody r.status body' = Payload.describeBody r.status body) :
    linkOf r' = linkOf r := by
  have success : r'.isSuccess = r.isSuccess := by
    rw [Response.isSuccess, Response.isSuccess, status]
  have rejects : rejected r' body' = rejected r body := by
    rw [rejected, rejected, status, described]
  rw [linkOf, linkOf, arrived, arrived']
  simp only [success, rejects, read, read', status]

/-- Texts that are read as the same link reply and described alike shorten alike. -/
lemma shortensAlike_of_read {reply : LinkReply} (read : LinkReply.read body.toList = .ok reply)
    (read' : LinkReply.read body'.toList = .ok reply)
    (described : ∀ status, Payload.describeBody status body' = Payload.describeBody status body) :
    ShortensAlike body body' := by
  rintro s n n' _ input ⟨r, responds, rfl, arrived⟩ ⟨r', responds', status, arrived'⟩
  cases blank : Text.isBlankText input with
  | true => rw [shorten_of_blank blank, shorten_of_blank blank]
  | false =>
    rw [shorten_value blank, shorten_value blank, responds, responds']
    exact linkOf_congr status arrived arrived' read read' (described r.status)

/-- A link depends on the status and the record of the response alone. -/
lemma keepsLinks_of_read
    (same : (LinkReply.read body'.toList).toOption = (LinkReply.read body.toList).toOption) :
    KeepsLinks body body' := by
  rintro s n n' _ input link ⟨r, responds, rfl, arrived⟩ ⟨r', responds', status, arrived'⟩ ok
  obtain ⟨full, _, own, carries⟩ := shorten_ok_iff.1 ok
  obtain rfl := Option.some.inj (responds.symm.trans own)
  refine shorten_ok_iff.2 ⟨full, r', responds', ?_⟩
  cases carries with
  | @intro own key shortUrl longUrl success text read =>
    obtain rfl := Option.some.inj (arrived.symm.trans text)
    rw [eq_ok_iff_toOption, ← same, ← eq_ok_iff_toOption] at read
    rw [← status]
    refine .intro ?_ arrived' read
    rw [Response.isSuccess, status]
    exact success

/-! ## Other forms of a reply -/

/-- A reply is shown alike when its members stand in another order, with other blanks around
the tokens. -/
lemma describeBody_of_perm {ms ms' : List Member} {members : List (String × Value)}
    (parses : parse body.toList = .ok (.object members)) (isObject : IsObject body ms)
    (isObject' : IsObject body' ms') (perm : ms'.Perm ms) (distinct : (ms.map Member.name).Nodup)
    (status : UInt16) :
    Payload.describeBody status body' = Payload.describeBody status body := by
  have parses' := parse_of_perm isObject isObject' perm distinct parses
  rw [Payload.describeBody, Payload.describeBody, Payload.bodyText, Payload.bodyText, parses,
    parses']

/-- The members of a reply, as far as they are read, may come in any order and among others. -/
lemma read_of_perm {σ α : Type} {shape : Shape σ α} (lawful : shape.Lawful)
    {ms ms' extra : List Member} (isObject : IsObject body ms) (isObject' : IsObject body' ms')
    (perm : ms'.Perm (extra ++ ms)) (distinct : (ms.map Member.name).Nodup)
    (unread : ∀ m ∈ extra, m.name ∉ shape.names) :
    (decodeWith shape.read body'.toList).toOption =
      (decodeWith shape.read body.toList).toOption := by
  rw [Shape.decode_of_isObject lawful isObject, Shape.decode_of_isObject lawful isObject',
    Shape.record?_of_perm lawful perm distinct unread]

/-- Other forms of a reply that is an object with no name twice. Where only the order of the members
and the blanks around the tokens are different, the same text is shown for it, the same number is
taken from it, and shortening comes to the same if the reply can be read. Where there are other
members too, with any values, a link is still taken from the reply as long as the others have none
of the names that are read for a link, and so is the number as long as none of them is a count. -/
theorem rearranged_reply {members : List (String × Value)}
    (parses : parse body.toList = .ok (.object members)) :
    (∃ ms, IsObject body ms) ∧
      ∀ ms, IsObject body ms → (ms.map Member.name).Nodup →
        (∀ body' ms', IsObject body' ms' → ms'.Perm ms →
          (∀ status, Payload.describeBody status body' = Payload.describeBody status body) ∧
          ((∃ reply, LinkReply.read body.toList = .ok reply) → ShortensAlike body body') ∧
          CountsAlike body body') ∧
        ∀ body' ms' extra, IsObject body' ms' → ms'.Perm (extra ++ ms) →
          ((∀ m ∈ extra, m.name ∉ ["key", "short_url", "long_url"]) → KeepsLinks body body') ∧
          ((∀ m ∈ extra, m.name ≠ "count") → CountsAlike body body') := by
  constructor
  · obtain ⟨ms, isObject, -⟩ := isObject_of_parse parses
    exact ⟨ms, isObject⟩
  · intro ms isObject distinct
    constructor
    · intro body' ms' isObject' perm
      have joined : ms'.Perm ([] ++ ms) := perm
      have described := describeBody_of_perm parses isObject isObject' perm distinct
      refine ⟨described, ?_, ?_⟩
      · rintro ⟨reply, read⟩
        have same := read_of_perm LinkReply.lawful isObject isObject' joined distinct
          (List.forall_mem_nil _)
        have read' := eq_ok_iff_toOption.2 (same.trans (eq_ok_iff_toOption.1 read))
        exact shortensAlike_of_read read read' described
      · exact countsAlike_of_read (read_of_perm CountReply.lawful isObject isObject' joined
          distinct (List.forall_mem_nil _))
    · intro body' ms' extra isObject' perm
      constructor
      · intro unread
        exact keepsLinks_of_read
          (read_of_perm LinkReply.lawful isObject isObject' perm distinct unread)
      · intro unread
        refine countsAlike_of_read
          (read_of_perm CountReply.lawful isObject isObject' perm distinct fun m mem => ?_)
        exact List.mem_singleton.not.2 (unread m mem)

/-! ### One link in three forms -/

/-- A network that answers with a reply of this text. -/
def answering (body : String) : Network where
  up := true
  replies := [.response ⟨201, [], Text.Utf8.encode body.toList, false⟩]

/-- The network answers with the text that it was made for. -/
lemma answersLink_answering (body : String) : AnswersLink localhost (answering body) 201 body := by
  refine ⟨_, rfl, rfl, ?_⟩
  show some (String.ofList (Text.Utf8.decodeLossy (Text.Utf8.encode body.toList))) = some body
  rw [Text.Utf8.decodeLossy_encode, String.ofList_toList]

/-- A reply with a key and a short URL. -/
def plainText : String := "\x7b\"key\":\"k\",\"short_url\":\"k\"\x7d"

/-- The same members the other way round, with blanks between them. -/
def swappedText : String := "\n\x7b \"short_url\" : \"k\",\t\"key\":\"k\" \x7d "

/-- The same members with one more between them. -/
def notedText : String :=
  "\x7b\"short_url\":\"k\", \"note\":[1e999,\"\\ud800\"], \"key\":\"k\"\x7d"

/-- The member with the key. -/
def keyMember : Member where
  name := "key"
  tokens := [.string (.ok "k") none]
  isJson := .string

/-- The member with the short URL. -/
def shortUrlMember : Member where
  name := "short_url"
  tokens := [.string (.ok "k") none]
  isJson := .string

/-- A member that can only be passed over: there is a number in it that is too large, and half of a
surrogate pair. -/
def noteMember : Member where
  name := "note"
  tokens := .openArray :: listed true
    [[.number (.error ⟨.numberOutOfRange, 5⟩) none],
      [.string (.error ⟨.brokenSurrogatePair, 8⟩) none]] ++ [.closeArray]
  isJson := .array (List.forall_mem_cons.2 ⟨.number, List.forall_mem_singleton.2 .string⟩)

/-- The first text has the key in front. -/
lemma isObject_plainText : IsObject plainText [keyMember, shortUrlMember] :=
  isObject_iff.2 rfl

/-- The second text has the short URL in front. -/
lemma isObject_swappedText : IsObject swappedText [shortUrlMember, keyMember] :=
  isObject_iff.2 rfl

/-- The third text has the further member in the middle. -/
lemma isObject_notedText : IsObject notedText [shortUrlMember, noteMember, keyMember] := by
  decide +kernel

/-- The first text can be read as a value. -/
lemma parse_plainText : ∃ members, parse plainText.toList = .ok (.object members) := by
  have each : ∀ m ∈ [keyMember, shortUrlMember],
      Forms (depthLimit - 1) m.tokens (.string "k") :=
    List.forall_mem_cons.2 ⟨.string, List.forall_mem_singleton.2 .string⟩
  exact ⟨_, isObject_plainText.parse_eq each⟩

/-- The first text is read as a link reply. -/
lemma read_plainText : LinkReply.read plainText.toList = .ok ⟨some "k", some "k", none⟩ := rfl

/-- The link is the same in whichever form it comes, and the two forms of it that can be shown are
shown alike. -/
theorem rearranged_reply_of_link :
    let link : ShortLink := ⟨"k", "k", true, none⟩
    (∃ members, parse plainText.toList = .ok (.object members)) ∧
      ((localhost.shorten "u").run (answering plainText)).value = .ok link ∧
      ((localhost.shorten "u").run (answering swappedText)).value = .ok link ∧
      ((localhost.shorten "u").run (answering notedText)).value = .ok link ∧
      ∀ status,
        Payload.describeBody status swappedText = Payload.describeBody status plainText := by
  intro link
  have plain : ((localhost.shorten "u").run (answering plainText)).value = .ok link := by
    decide +kernel
  have answers := answersLink_answering
  obtain ⟨members, parses⟩ := parse_plainText
  obtain ⟨reordered, joined⟩ := (rearranged_reply parses).2 _ isObject_plainText (by decide)
  obtain ⟨described, shortened, -⟩ := reordered _ _ isObject_swappedText (.swap _ _ _)
  have swapped := shortened ⟨_, read_plainText⟩ _ _ _ _ "u" (answers plainText)
    (answers swappedText)
  have perm : ([shortUrlMember] ++ [noteMember, keyMember]).Perm
      ([noteMember] ++ [keyMember, shortUrlMember]) := List.perm_append_comm
  have noted := (joined _ _ _ isObject_notedText perm).1 (by decide) _ _ _ _ "u" _
    (answers plainText) (answers notedText) plain
  exact ⟨⟨members, parses⟩, plain, swapped.trans plain, noted, described⟩

end Server

end Shortlink
