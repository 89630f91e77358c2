import Shortlink.Proofs.Server.Asking
import Shortlink.Proofs.Server.KeyUrl
import Shortlink.Proofs.Url.Stem

/-!
# The segment of a key

A key without tabs and line ends that is neither one dot nor two stands below the URL of a server as
a segment of its own, from which it is read back letter by letter. So whatever signs it holds, they
divide nothing, and no two such keys are asked for by the same URL.
-/

namespace Shortlink

/-- A key that is not blank, means no place that is there already, and has no tab and no line
end. -/
structure Key.IsPlain (key : Key) : Prop where
  full : Text.isBlankText key = false
  one : key ≠ "."
  two : key ≠ ".."
  unbroken : ∀ c ∈ key.toList, c ≠ '\t' ∧ c ≠ '\n' ∧ c ≠ '\r'

namespace Key.IsPlain

variable {key : Key}

/-- Such a key is put in as it is. -/
lemma kept (h : key.IsPlain) : Url.Path.kept key = key.toList :=
  Url.Path.kept_eq_toList h.unbroken

/-- Such a key means no place that is there already. -/
lemma isFresh (h : key.IsPlain) : Url.Path.IsFresh key := by
  rw [Url.Path.IsFresh, h.kept]
  exact ⟨fun e => h.one (String.toList_inj.1 e), fun e => h.two (String.toList_inj.1 e)⟩

end Key.IsPlain

namespace Url

/-- Two URLs that differ in their paths at most are written alike only if the paths are. -/
lemma path_text_of_text {u : Url} {path path' : Path}
    (h : ({ u with path := path } : Url).text = ({ u with path := path' } : Url).text) :
    path.text = path'.text := by
  have same := congrArg String.toList h
  simp only [text, String.toList_append, List.append_assoc] at same
  have authority : ({ u with path := path } : Url).authorityText =
      ({ u with path := path' } : Url).authorityText := rfl
  rw [authority, List.append_cancel_left_eq, List.append_cancel_left_eq, List.append_cancel_left_eq,
    ← List.append_assoc, ← List.append_assoc, List.append_cancel_right_eq,
    List.append_cancel_right_eq] at same
  exact String.toList_inj.1 same

end Url

namespace Server

variable {s : Server} {key : Key}

/-- The path of the URL of a key, for a server that is reached over plain connections. -/
lemma keyUrl_path_text [Url.DomainRules] {url : String} (h : ofUrl url = .ok s)
    (http : s.base.scheme = "http") (fresh : Url.Path.IsFresh key) :
    (s.keyUrl key).path.text.toList =
      Url.Path.stem s.base.path.text.toList ++ '/' :: Url.Path.segmentOf true key := by
  have special : s.base.isSpecial = true := by
    rw [Url.isSpecial, http]
    decide
  have text := Url.below_path_text (Url.parse_wellFormed (ofUrl_ok h)) s.structured
    (by rw [http]; decide) fresh
  rw [special] at text
  exact text

/-- The key is read back from the path of its URL. -/
lemma key_of_path_text [Url.DomainRules] {url : String} (h : ofUrl url = .ok s)
    (http : s.base.scheme = "http") {key' : Key} (plain : key.IsPlain) (plain' : key'.IsPlain)
    (same : (s.keyUrl key').path.text = (s.keyUrl key).path.text) : key' = key := by
  have segments := congrArg String.toList same
  rw [keyUrl_path_text h http plain.isFresh, keyUrl_path_text h http plain'.isFresh] at segments
  have segment := (List.cons.inj (List.append_cancel_left segments)).2
  have decoded := congrArg (Text.Utf8.decode? ∘ Url.percentDecode) segment
  simp only [Function.comp_apply, Url.Path.decode_segmentOf, plain.kept, plain'.kept] at decoded
  exact String.toList_inj.1 (Option.some.inj decoded)

/-- What is asked for at the URL of a key tells the path of this URL. -/
lemma path_text_of_target {key' : Key} {method method' : Method}
    (same : Request.target ⟨method', s.keyUrl key', none⟩ =
      Request.target ⟨method, s.keyUrl key, none⟩) :
    (s.keyUrl key').path.text = (s.keyUrl key).path.text := by
  have target (method : Method) (key : Key) : Request.target ⟨method, s.keyUrl key, none⟩ =
      ({ s.base.withoutUserInfo.withoutFragment with path := (s.keyUrl key).path } : Url).text := by
    rw [Request.target, keyUrl, Url.below_path]
    rfl
  rw [target, target] at same
  exact Url.path_text_of_text same

/-- The requests for a key, of a server that is reached over plain connections, go to a URL that
differs from that of the server in its path alone, and there by one segment: it stands behind the
path of the server without a slash at the end, holds no sign that divides a URL and means no other
place, and it is read back as the key. So requests for different keys go to different places. -/
theorem keyUrl_segment [Url.DomainRules] {url : String} (h : ofUrl url = .ok s)
    (http : s.base.scheme = "http") (plain : key.IsPlain) :
    (∀ n : Network,
      ((s.remove key).run n).trace =
          (if n.connects (s.keyUrl key) then [⟨.delete, s.keyUrl key, none⟩] else []) ∧
        ((s.resolve key).run n).trace =
          if n.connects (s.keyUrl key) then [⟨.get, s.keyUrl key, none⟩] else []) ∧
      s.keyUrl key = { s.base with path := (s.keyUrl key).path } ∧
      (∃ e, (s.keyUrl key).path.text.toList =
          Url.Path.stem s.base.path.text.toList ++ '/' :: e ∧
        (∀ c ∈ ['/', '?', '#', '\\'], c ∉ e) ∧
        (Url.Path.isSingleDot e = false ∧ Url.Path.isDoubleDot e = false) ∧
        Text.Utf8.decode? (Url.percentDecode e) = some key.toList) ∧
      ∀ (key' : Key) (method method' : Method), key'.IsPlain →
        Request.target ⟨method', s.keyUrl key', none⟩ =
          Request.target ⟨method, s.keyUrl key, none⟩ → key' = key := by
  refine ⟨fun n => ⟨remove_trace plain.full n, resolve_trace plain.full n⟩, s.base.below_path [key],
    ⟨_, keyUrl_path_text h http plain.isFresh, fun c sign => ?_, ?_, ?_⟩, ?_⟩
  · exact Url.Path.not_mem_segmentOf sign key
  · exact Url.Path.segmentOf_of_isFresh plain.isFresh
  · rw [Url.Path.decode_segmentOf, plain.kept]
  · intro key' method method' plain' same
    exact key_of_path_text h http plain plain' (path_text_of_target same)

/-- Dots that are spelled with percent signs, with a slash and a question mark behind them, are a
segment like any other, also behind a path that ends with a slash. -/
theorem keyUrl_segment_of_spelled_dots :
    ∃ s, ofUrl "http://u:p@localhost:8080/api/?q#f" = .ok s ∧ s.base.scheme = "http" ∧
      Key.IsPlain "%2e%2e/é?" ∧ ∃ e, (s.keyUrl "%2e%2e/é?").path.text.toList =
        "/api".toList ++ '/' :: e ∧ '/' ∉ e ∧ '?' ∉ e ∧
        Text.Utf8.decode? (Url.percentDecode e) = some "%2e%2e/é?".toList := by
  let base : Url := ⟨"http", some ⟨"u", some "p", "localhost", some 8080⟩, false,
    .segments ["api", ""], some "q", some "f"⟩
  have accepted : ofUrl "http://u:p@localhost:8080/api/?q#f" = .ok ⟨base, rfl⟩ := rfl
  have plain : Key.IsPlain "%2e%2e/é?" := ⟨by decide, by decide, by decide, by simp⟩
  obtain ⟨-, -, ⟨e, path, signs, -, decoded⟩, -⟩ := keyUrl_segment accepted rfl plain
  have stem : Url.Path.stem base.path.text.toList = "/api".toList := by decide
  rw [stem] at path
  exact ⟨_, accepted, rfl, plain, e, path, signs _ (by decide), signs _ (by decide), decoded⟩

end Server

end Shortlink
