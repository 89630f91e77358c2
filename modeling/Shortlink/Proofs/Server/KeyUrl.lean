import Shortlink.Proofs.Server.Exchange
import Shortlink.Proofs.Url.Below

/-!
# The URL of a link

A link is asked for and removed by a URL below that of the server, for almost every key. The keys of
one dot and of two dots do not lead below it, with or without tabs and line ends in them, and
neither does any key where the path of the server is two slashes.
-/

namespace Shortlink

/-- Tabs and line ends are blank, so that something is left of a text that is not. -/
lemma kept_ne_nil {key : Key} (h : Text.isBlankText key = false) : Url.Path.kept key ≠ [] := by
  intro e
  have blank : ∀ c ∈ key.toList, Text.isBlank c = true := by
    intro c mem
    have dropped := List.filter_eq_nil_iff.1 e c mem
    simp only [Bool.not_eq_true', Bool.not_eq_false, Bool.or_eq_true, beq_iff_eq] at dropped
    rcases dropped with (rfl | rfl) | rfl <;> rfl
  have front : Text.stripStart key.toList = [] := by
    have all := Text.stripStart_append blank []
    rwa [List.append_nil] at all
  rw [Text.isBlankText, Text.trim, Text.strip, front] at h
  exact absurd h (by decide)

namespace Server

/-- The base of a server is read from its URL without the blanks around it. -/
lemma ofUrl_ok [Url.DomainRules] {url : String} {s : Server} (h : ofUrl url = .ok s) :
    Url.parse (Text.trim url) = .ok s.base := by
  rw [ofUrl] at h
  split at h
  · cases h
  · next base parsed =>
    split at h
    · cases h
      exact parsed
    · cases h

/-- Where the requests for a key go: to its URL. This lies below the URL of the server exactly if
the path of the server is not two slashes and the key, without tabs and line ends, is neither one
dot nor two. -/
theorem keyUrl_liesBelow_iff [Url.DomainRules] {url : String} {s : Server}
    (h : ofUrl url = .ok s) {key : Key} (blank : Text.isBlankText key = false) :
    (∀ n : Network,
      ((s.remove key).run n).trace =
          (if n.connects (s.keyUrl key) then [⟨.delete, s.keyUrl key, none⟩] else []) ∧
        ((s.resolve key).run n).trace =
          if n.connects (s.keyUrl key) then [⟨.get, s.keyUrl key, none⟩] else []) ∧
      ((s.keyUrl key).LiesBelow s.base ↔
        s.base.path.text ≠ "//" ∧ Url.Path.kept key ≠ ['.'] ∧ Url.Path.kept key ≠ ['.', '.']) := by
  refine ⟨fun n => ⟨remove_trace blank n, resolve_trace blank n⟩, ?_⟩
  have read := Url.parse_wellFormed (ofUrl_ok h)
  exact Url.below_liesBelow_iff read s.structured (kept_ne_nil blank)

/-- A key with a slash and a question mark lies below, one segment all the same. -/
theorem keyUrl_liesBelow_of_slash :
    ∃ s, ofUrl "http://localhost:8080/api/" = .ok s ∧ s.base.path.text = "/api/" ∧
      (s.keyUrl "a/b?c").LiesBelow s.base := by
  let base : Url :=
    ⟨"http", some ⟨"", none, "localhost", some 8080⟩, false, .segments ["api", ""], none, none⟩
  have accepted : ofUrl "http://localhost:8080/api/" = .ok ⟨base, rfl⟩ := rfl
  have blank : Text.isBlankText "a/b?c" = false := by decide
  have plain : base.path.text ≠ "//" ∧ Url.Path.kept "a/b?c" ≠ ['.'] ∧
      Url.Path.kept "a/b?c" ≠ ['.', '.'] := by decide
  exact ⟨_, accepted, rfl, (keyUrl_liesBelow_iff accepted blank).2.2 plain⟩

/-- The key of two dots is not blank, and its URL is that of the server itself. -/
theorem not_keyUrl_liesBelow_of_dots :
    ∃ s, ofUrl "http://localhost:8080/api" = .ok s ∧ Text.isBlankText ".." = false ∧
      s.keyUrl ".." = s.base ∧ ¬ (s.keyUrl "..").LiesBelow s.base := by
  let base : Url :=
    ⟨"http", some ⟨"", none, "localhost", some 8080⟩, false, .segments ["api"], none, none⟩
  have accepted : ofUrl "http://localhost:8080/api" = .ok ⟨base, rfl⟩ := rfl
  refine ⟨_, accepted, by decide, by decide, ?_⟩
  rintro ⟨-, seg, -, -, e⟩
  have path : (Server.keyUrl ⟨base, rfl⟩ "..").path.text.toList = ['/', 'a', 'p', 'i'] := by decide
  have trimmed : Url.Path.withoutLastSlash base.path.text.toList = ['/', 'a', 'p', 'i'] := by decide
  rw [path, trimmed] at e
  cases e

end Server

end Shortlink
