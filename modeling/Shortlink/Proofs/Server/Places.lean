import Mathlib.Data.List.Basic
import Shortlink.Proofs.Server.KeySegment

/-!
# Where a server is asked

The count and the links of keys are asked for one segment below the URL of a server, whether or not
its path ends with a slash. The links as a whole are asked for at the path without this slash, so
that their URL ends with a slash only where the path of the server is a slash, or ends with several.
-/

namespace Shortlink

namespace Url

/-- What lies below a URL is told by the URL without the slash at its end. -/
lemma below_congr {u u' : Url} (same : u'.below [] = u.below []) (segs : List String) :
    u'.below segs = u.below segs := by
  simp only [below, List.foldl_nil] at same
  rw [below, below, same]

namespace Path

variable {path : List Char}

/-- A path without the slash at its end is a slash only if it was two. -/
lemma withoutLastSlash_eq_slash (one : path ≠ ['/']) :
    withoutLastSlash path = ['/'] ↔ path = ['/', '/'] := by
  constructor
  · intro e
    rw [withoutLastSlash] at e
    split at e
    · next ends => rw [← List.dropLast_append_getLast? _ ends, e, List.singleton_append]
    · exact absurd e one
  · rintro rfl
    rfl

/-- What is left of a path when nothing is put below it. -/
def closed (path : List Char) : List Char :=
  if path = ['/'] then ['/'] else withoutLastSlash path

/-- A slash is left exactly of one slash and of two. -/
lemma closed_eq_slash_iff : closed path = ['/'] ↔ path = ['/'] ∨ path = ['/', '/'] := by
  rw [closed]
  by_cases one : path = ['/']
  · exact iff_of_true (if_pos one) (.inl one)
  · rw [if_neg one, withoutLastSlash_eq_slash one, or_iff_right one]

/-- There is a slash behind a path without the one at its end only if there is nothing else. -/
lemma closed_eq_append_slash_iff : closed path = withoutLastSlash path ++ ['/'] ↔ path = ['/'] := by
  rw [closed]
  by_cases one : path = ['/']
  · rw [if_pos one, one]
    decide
  · rw [if_neg one]
    exact iff_of_false (by simp) one

/-- What lies below a path is behind what is left of it, and behind a slash, unless that is one. -/
lemma stem_eq : stem path = if closed path = ['/'] then [] else closed path := by
  simp only [closed_eq_slash_iff]
  by_cases one : path = ['/']
  · rw [one]
    decide
  · by_cases two : path = ['/', '/']
    · rw [two]
      decide
    · rw [stem, if_neg two, if_neg (not_or.2 ⟨one, two⟩), closed, if_neg one]

/-- Two slashes are the only path whose stem is not what is left without the last one. -/
lemma stem_append_iff {back : List Char} :
    stem path ++ back = withoutLastSlash path ++ back ↔ path ≠ ['/', '/'] := by
  rw [List.append_cancel_right_eq, stem]
  by_cases two : path = ['/', '/']
  · rw [if_pos two, two]
    decide
  · exact iff_of_true (if_neg two) two

/-- A slash at the end is the one that goes, unless it is alone. -/
lemma closed_eq_self_iff (full : path ≠ []) :
    closed path = path ↔ path = ['/'] ∨ path.getLast? ≠ some '/' := by
  rw [closed]
  by_cases one : path = ['/']
  · exact iff_of_true (by rw [if_pos one, one]) (.inl one)
  · rw [if_neg one, or_iff_right one, withoutLastSlash]
    split
    · next ends =>
      refine iff_of_false (fun e => ?_) (not_not.2 ends)
      have less : path.dropLast.length = path.length - 1 := List.length_dropLast
      have some := List.length_pos_iff.2 full
      rw [e] at less
      omega
    · next other => exact iff_of_true rfl other

end Path

end Url

namespace Server

variable {s s' : Server} {url url' : String}

/-- The URLs of two servers differ in a slash at the end of the path, which the second one has. -/
structure Slashed (s s' : Server) : Prop where
  base : s'.base = { s.base with path := s'.base.path }
  path : s'.base.path.text = s.base.path.text ++ "/"

/-- Whatever is asked of one server is asked of the other one in the same way. -/
structure AsksAlike (s s' : Server) : Prop where
  count : s'.count = s.count
  shorten (input : String) : s'.shorten input = s.shorten input
  remove (key : Key) : s'.remove key = s.remove key
  resolve (key : Key) : s'.resolve key = s.resolve key

/-- Servers that shorten at the same place ask for everything in the same way. -/
lemma asksAlike_of_linksUrl (same : s'.linksUrl = s.linksUrl) : s.AsksAlike s' where
  count := by rw [count, count, countUrl, Url.below_congr same, ← countUrl]
  shorten input := by rw [Server.shorten, Server.shorten, same]
  remove key := by rw [Server.remove, Server.remove, keyUrl, Url.below_congr same, ← keyUrl]
  resolve key := by rw [Server.resolve, Server.resolve, keyUrl, Url.below_congr same, ← keyUrl]

/-- Links are made at what is left of the path of the server. -/
lemma linksUrl_path_text [Url.DomainRules] (h : ofUrl url = .ok s) :
    s.linksUrl.path.text.toList = Url.Path.closed s.base.path.text.toList :=
  Url.below_nil_path_text (Url.parse_wellFormed (ofUrl_ok h)) s.structured

/-- The count lies below the path of the server. -/
lemma countUrl_path_text [Url.DomainRules] (h : ofUrl url = .ok s) (http : s.base.scheme = "http") :
    s.countUrl.path.text.toList =
      Url.Path.stem s.base.path.text.toList ++ "/ping".toList := by
  have fresh : Url.Path.IsFresh "ping" := ⟨by decide, by decide⟩
  have text := keyUrl_path_text h http fresh
  rw [show Url.Path.segmentOf true "ping" = "ping".toList by decide] at text
  exact text

/-- A slash behind the path makes no difference exactly if the path does not end with one, or is
one. -/
lemma linksUrl_eq_iff [Url.DomainRules] (h : ofUrl url = .ok s) (h' : ofUrl url' = .ok s')
    (http : s.base.scheme = "http") (slashed : s.Slashed s') :
    s'.linksUrl = s.linksUrl ↔
      s.base.path.text.toList = ['/'] ∨ s.base.path.text.toList.getLast? ≠ some '/' := by
  have full : s.base.path.text.toList ≠ [] := fun empty =>
    Url.parse_path_ne_empty (ofUrl_ok h) http (String.toList_inj.1 empty)
  have right : s'.linksUrl.path.text.toList = s.base.path.text.toList := by
    have longer : s.base.path.text.toList ++ ['/'] ≠ ['/'] := by simpa using full
    rw [linksUrl_path_text h', slashed.path, String.toList_append, show "/".toList = ['/'] from rfl,
      Url.Path.closed, if_neg longer, Url.Path.withoutLastSlash, List.getLast?_concat, if_pos rfl,
      List.dropLast_concat]
  rw [← Url.Path.closed_eq_self_iff full, ← linksUrl_path_text h]
  constructor
  · intro same
    rw [← same, right]
  · intro same
    exact Url.below_nil_congr (Url.parse_wellFormed (ofUrl_ok h))
      (Url.parse_wellFormed (ofUrl_ok h')) s.structured s'.structured slashed.base
      (String.toList_inj.1 (right.trans same.symm))

/-- Where a server that is reached over plain connections is asked. All URLs are that of the server
but for their paths. The links as a whole are asked for at the path of the server without a slash at
its end, which a path of only a slash keeps; so this is that path with a slash behind it exactly if
the path of the server is a slash. The count is asked for one segment below, at `ping`, and the
slash at the end does not count, unless the path is two slashes, of which neither does. The links of
keys lie one segment below the links as a whole, behind a slash that the URL of these has already
only if the path of the server is one slash or two. A further slash at the end of the path of the
server changes nothing, unless the path ends with a slash already and is longer. -/
theorem places [Url.DomainRules] (h : ofUrl url = .ok s) (http : s.base.scheme = "http") :
    let path := s.base.path.text.toList
    let bare := Url.Path.withoutLastSlash path
    let links := s.linksUrl.path.text.toList
    let count := s.countUrl.path.text.toList
    (∀ (n : Network) (input : String), Text.isBlankText input = false →
      ((s.shorten input).run n).trace = (if n.connects s.linksUrl then
          [⟨.post, s.linksUrl, some (LinkRequest.toJson ⟨Text.trim input⟩).text⟩] else []) ∧
        (s.count.run n).trace = if n.connects s.countUrl then [⟨.get, s.countUrl, none⟩] else []) ∧
      (s.linksUrl = { s.base with path := s.linksUrl.path } ∧
        s.countUrl = { s.base with path := s.countUrl.path }) ∧
      (links = (if path = ['/'] then ['/'] else bare) ∧ (links = bare ++ ['/'] ↔ path = ['/'])) ∧
      (count = Url.Path.stem path ++ "/ping".toList ∧
        (count = bare ++ "/ping".toList ↔ path ≠ ['/', '/'])) ∧
      (∀ key : Key, Text.isBlankText key = false → Url.Path.IsFresh key →
        (∃ e, e ≠ [] ∧ '/' ∉ e ∧
          (s.keyUrl key).path.text.toList = (if links = ['/'] then [] else links) ++ '/' :: e) ∧
        ((∃ e, '/' ∉ e ∧ (s.keyUrl key).path.text.toList = links ++ e) ↔
          path = ['/'] ∨ path = ['/', '/'])) ∧
      ∀ url' s', ofUrl url' = .ok s' → s.Slashed s' →
        (path = ['/'] ∨ path.getLast? ≠ some '/' → s.AsksAlike s') ∧
          (s'.linksUrl = s.linksUrl → path = ['/'] ∨ path.getLast? ≠ some '/') := by
  intro path bare links count
  have linksText : links = Url.Path.closed path := linksUrl_path_text h
  have countText : count = Url.Path.stem path ++ "/ping".toList := countUrl_path_text h http
  refine ⟨fun n input full => ⟨?_, ?_⟩, ⟨s.base.below_path [], s.base.below_path ["ping"]⟩,
    ⟨linksText, ?_⟩, ⟨countText, ?_⟩, fun key full fresh => ⟨?_, ?_⟩, fun url' s' h' slashed => ?_⟩
  · have request : s.shortenRequest? input = some _ := if_neg (by simp [full])
    rw [(s.asks_shorten input).trace n, request, Network.made_some]
  · rw [s.asks_count.trace n, Network.made_some, countRequest]
  · rw [linksText, Url.Path.closed_eq_append_slash_iff]
  · rw [countText, Url.Path.stem_append_iff]
  · refine ⟨Url.Path.segmentOf true key,
      fun e => kept_ne_nil full ((Url.segment_eq_nil true _).1 e),
      Url.Path.not_mem_segmentOf (by decide) key, ?_⟩
    rw [keyUrl_path_text h http fresh, Url.Path.stem_eq, linksText]
  · have slash : '/' ∉ Url.Path.segmentOf true key := Url.Path.not_mem_segmentOf (by decide) key
    rw [keyUrl_path_text h http fresh, Url.Path.stem_eq, linksText, ← Url.Path.closed_eq_slash_iff]
    by_cases one : Url.Path.closed path = ['/']
    · rw [if_pos one, one]
      exact iff_of_true ⟨_, slash, rfl⟩ rfl
    · rw [if_neg one]
      refine iff_of_false ?_ one
      rintro ⟨e, free, whole⟩
      rw [← List.append_cancel_left whole] at free
      exact free List.mem_cons_self
  · have same := linksUrl_eq_iff h h' http slashed
    exact ⟨fun plain => asksAlike_of_linksUrl (same.2 plain), same.1⟩

/-- Behind `/api` a slash changes nothing. -/
theorem places_of_slash :
    ∃ s s', ofUrl "http://localhost:8080/api?q" = .ok s ∧
      ofUrl "http://localhost:8080/api/?q" = .ok s' ∧ s.base.scheme = "http" ∧ s.Slashed s' ∧
      s.AsksAlike s' := by
  let base (segs : List String) : Url :=
    ⟨"http", some ⟨"", none, "localhost", some 8080⟩, false, .segments segs, some "q", none⟩
  have accepted : ofUrl "http://localhost:8080/api?q" = .ok ⟨base ["api"], rfl⟩ := rfl
  have accepted' : ofUrl "http://localhost:8080/api/?q" = .ok ⟨base ["api", ""], rfl⟩ := rfl
  have slashed : Slashed ⟨base ["api"], rfl⟩ ⟨base ["api", ""], rfl⟩ := ⟨rfl, by decide⟩
  obtain ⟨-, -, -, -, -, alike⟩ := places accepted rfl
  exact ⟨_, _, accepted, accepted', rfl, slashed,
    (alike _ _ accepted' slashed).1 (.inr (by decide))⟩

/-- Below `/api` the links as a whole are asked for at `/api`, without a slash behind it, while the
count is asked for at `/api/ping`. -/
theorem linksUrl_of_nested_path :
    ofUrl "http://localhost:8080/api" = .ok localhost ∧
      localhost.linksUrl.path.text = "/api" ∧ localhost.countUrl.path.text = "/api/ping" ∧
      localhost.linksUrl.path.text.toList ≠
        Url.Path.withoutLastSlash localhost.base.path.text.toList ++ ['/'] :=
  ⟨ofUrl_localhost, by decide, by decide, by decide⟩

end Server

end Shortlink
