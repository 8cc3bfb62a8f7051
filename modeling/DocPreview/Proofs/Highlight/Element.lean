import DocPreview.Highlight.Element
import DocPreview.Proofs.Highlight.Span
import DocPreview.Proofs.Text.Json

/-!
# The line of a highlighted element and the code that it shows

An element stands on one line: the code is in it as a string of JSON, in which a line break is
escaped like every other control character, and the name of a class holds none. Markup finds the end
of an expression by its braces alone and does not look into strings, so the braces of the string are
escaped after everything else. That is still a string of JSON: the escapes of JSON hold no brace, so
a brace that is escaped is one that stood for itself, and no escape is broken by it.

Reading the string and what its HTML shows gives the code of the fence back: highlighting loses no
character, adds none and moves none, whatever scopes a tokenizer finds and also if it fails.

## Main definitions

* `htmlArgument?`: the HTML that an element hands over.

## Main results

* `unquote?_bracelessString`: a string without braces is read back.
* `isLiteralOf_bracelessString`: a string without braces is a literal.
* `brace_notMem_bracelessString`: a string without braces has none.
* `notMem_className`: the characters of the name of a class.
* `exists_element_eq`: an element begins with its tag and has no line break.
* `htmlArgument?_elementWith`: an element hands its HTML over.
* `elementWith_shows_code`: an element shows the code of its fence.
-/

namespace DocPreview.Highlight

open Text

theorem escapeBrace_of_ne {c : Char} (hopen : c ≠ '\x7b') (hclose : c ≠ '\x7d') :
    escapeBrace c = [c] := by
  unfold escapeBrace
  split
  · exact absurd rfl hopen
  · exact absurd rfl hclose
  · rfl

/-- A character is a brace, or it is written in a string without braces as in any other: the escapes
of JSON hold no brace. -/
theorem brace_or_flatMap_escapeBrace_eq (c : Char) : c = '\x7b' ∨ c = '\x7d' ∨
    (Json.escapeChar c).flatMap escapeBrace = Json.escapeChar c := by
  by_cases hopen : c = '\x7b'
  · exact Or.inl hopen
  by_cases hclose : c = '\x7d'
  · exact Or.inr (Or.inl hclose)
  refine Or.inr (Or.inr ?_)
  have hdigit : ∀ n < 16, escapeBrace (Json.hexDigit n) = [Json.hexDigit n] := by decide
  unfold Json.escapeChar
  split
  case h_6 =>
    split_ifs with hback hfeed hcontrol
    · rfl
    · rfl
    · have hhigh := hdigit (c.toNat / 16) (by omega)
      have hlow := hdigit (c.toNat % 16) (by omega)
      simp only [List.flatMap_cons, List.flatMap_nil, List.append_nil, hhigh,
        hlow]
      rfl
    · rw [List.flatMap_singleton, escapeBrace_of_ne hopen hclose]
  all_goals rfl

/-- The characters of a string without braces are read back. -/
theorem writesChars_braceless :
    Json.WritesChars fun c => (Json.escapeChar c).flatMap escapeBrace where
  ne_quote c r := by
    rcases brace_or_flatMap_escapeBrace_eq c with rfl | rfl | h
    · exact show some '\\' ≠ some '"' by decide
    · exact show some '\\' ≠ some '"' by decide
    · rw [h]
      exact Json.writesChars_escapeChar.ne_quote c r
  reads c r := by
    rcases brace_or_flatMap_escapeBrace_eq c with rfl | rfl | h
    · rfl
    · rfl
    · rw [h]
      exact Json.unescapeChar?_escapeChar c r

/-- Quotes are escaped in a string without braces as well. -/
theorem escapesQuotes_braceless :
    Json.EscapesQuotes fun c => (Json.escapeChar c).flatMap escapeBrace where
  closed c := by
    rcases brace_or_flatMap_escapeBrace_eq c with rfl | rfl | h
    · rfl
    · rfl
    · rw [h]
      exact Json.escapesQuotes_escapeChar.closed c
  escaped c x y hc := by
    rcases brace_or_flatMap_escapeBrace_eq c with rfl | rfl | h
    · have hquote : '"' ∉ (Json.escapeChar '\x7b').flatMap escapeBrace := by decide
      rw [hc] at hquote
      exact absurd (List.mem_append_right x List.mem_cons_self) hquote
    · have hquote : '"' ∉ (Json.escapeChar '\x7d').flatMap escapeBrace := by decide
      rw [hc] at hquote
      exact absurd (List.mem_append_right x List.mem_cons_self) hquote
    · rw [h] at hc
      exact Json.escapesQuotes_escapeChar.escaped c x y hc

/-- A text that is given by its characters holds no control characters if none of them is one. -/
theorem le_of_mem {t : Text} {x : Char} (h : t.all (0x20 ≤ ·.toNat)) (hx : x ∈ t) :
    0x20 ≤ x.toNat := by
  simpa using List.all_eq_true.1 h x hx

/-- A character of a string without braces is written without control characters. -/
theorem le_of_mem_escapeBrace {c x : Char} (h : x ∈ (Json.escapeChar c).flatMap escapeBrace) :
    0x20 ≤ x.toNat := by
  obtain ⟨d, hd, hx⟩ := List.mem_flatMap.1 h
  unfold escapeBrace at hx
  split at hx
  · exact le_of_mem (by decide) hx
  · exact le_of_mem (by decide) hx
  · exact List.mem_singleton.1 hx ▸ Json.le_toNat_of_mem_escapeChar hd

/-- A string without braces is written character by character. -/
theorem bracelessString_eq (s : Text) : bracelessString s =
    '"' :: s.flatMap (fun c => (Json.escapeChar c).flatMap escapeBrace) ++ ['"'] := by
  rw [bracelessString, Json.quote, Json.escape, List.flatMap_append, List.flatMap_cons,
    List.flatMap_assoc]
  rfl

/-- A string without braces is read back, with what follows it. -/
theorem unquote?_bracelessString (s r : Text) :
    Json.unquote? (bracelessString s ++ r) = some (s, r) := by
  rw [bracelessString_eq, List.append_assoc]
  exact writesChars_braceless.unquote?_append s r

/-- A string without braces is a string literal. -/
theorem isLiteralOf_bracelessString (s : Text) : Json.IsLiteralOf s (bracelessString s) := by
  rw [bracelessString_eq]
  exact Json.isLiteralOf_flatMap writesChars_braceless escapesQuotes_braceless
    (fun _ _ => le_of_mem_escapeBrace) s

/-- A string without braces has none. -/
theorem brace_notMem_bracelessString (s : Text) :
    '\x7b' ∉ bracelessString s ∧ '\x7d' ∉ bracelessString s := by
  have hchar (c : Char) : '\x7b' ∉ escapeBrace c ∧ '\x7d' ∉ escapeBrace c := by
    unfold escapeBrace
    split
    · decide
    · decide
    · next hopen hclose =>
      rw [List.mem_singleton, List.mem_singleton]
      exact ⟨fun h => hopen h.symm, fun h => hclose h.symm⟩
  rw [bracelessString, List.mem_flatMap, List.mem_flatMap]
  constructor
  · rintro ⟨c, -, hc⟩
    exact (hchar c).1 hc
  · rintro ⟨c, -, hc⟩
    exact (hchar c).2 hc

open Text Artifact Document

/-- The language in the name of a class has only characters that can stand there. -/
theorem isClassChar_of_mem_classLanguage? {language t : Text} (h : classLanguage? language = some t)
    {c : Char} (hc : c ∈ t) : isClassChar c := by
  rw [classLanguage?, Option.ite_none_right_eq_some, Bool.and_eq_true, List.all_eq_true] at h
  obtain ⟨⟨-, hall⟩, heq⟩ := h
  exact hall c (Option.some.inj heq ▸ hc)

/-- The name of a class has no characters but those of a word and of the names of its two classes.
Its definition is opened by `delta`, since making its equations is slow. -/
theorem notMem_className {x : Char} (hx : isClassChar x = false)
    (hname : x ∉ "hljs language-".toList) (language : Text) :
    x ∉ className (classLanguage? language) := by
  have hword (t : Text) (h : classLanguage? language = some t) : x ∉ t := by
    intro hmem
    rw [isClassChar_of_mem_classLanguage? h hmem] at hx
    cases hx
  delta className
  split
  · exact fun h => hname (List.mem_append_left _ h)
  · rename_i t ht
    rw [List.mem_append, not_or]
    exact ⟨hname, hword t ht⟩

/-- An element begins with its tag and has no line break. -/
theorem exists_elementWith_eq (tokenizer : Option Text → Tokenizer) (f : Fence) :
    ∃ r, elementWith tokenizer f = '<' :: r ∧ '\n' ∉ r := by
  have hclass : '\n' ∉ className (classLanguage? f.language) :=
    notMem_className (by decide) (by decide) f.language
  have hstring : '\n' ∉ bracelessString
      (highlightWith (tokenizer (classLanguage? f.language)) f.code) :=
    (isLiteralOf_bracelessString _).no_lineBreak.1
  delta elementWith
  dsimp only
  generalize className _ = cls at hclass ⊢
  generalize bracelessString _ = code at hstring ⊢
  refine ⟨"pre><code className=\"".toList ++ cls ++
    "\" dangerouslySetInnerHTML=\x7b\x7b__html: ".toList ++ code ++ "\x7d\x7d /></pre>".toList,
    by simp, ?_⟩
  simp [hclass, hstring]

/-- An element begins with its tag and has no line break. -/
theorem exists_element_eq (f : Fence) : ∃ r, element f = '<' :: r ∧ '\n' ∉ r :=
  exists_elementWith_eq tokenizerFor f

/-! ### The code that is shown -/

/-- The string behind `__html: ` in an element, and what follows it. -/
def htmlArgument? (element : Text) : Option (Text × Text) := do
  let (_, r) ← findText "__html: ".toList element
  Json.unquote? r

/-- The HTML that an element hands over is a string of JSON, which stands for the highlighted
code. -/
theorem htmlArgument?_elementWith (tokenizer : Option Text → Tokenizer) (f : Fence) :
    htmlArgument? (elementWith tokenizer f) =
      some (highlightWith (tokenizer (classLanguage? f.language)) f.code,
        "\x7d\x7d /></pre>".toList) := by
  have hclass : ':' ∉ className (classLanguage? f.language) :=
    notMem_className (by decide) (by decide) f.language
  delta elementWith
  dsimp only
  generalize className _ = cls at hclass ⊢
  generalize highlightWith _ _ = html
  have hbefore : ':' ∉ "<pre><code className=\"".toList ++ cls ++
      "\" dangerouslySetInnerHTML=\x7b\x7b".toList := by
    simp [hclass]
  have hfind := findText_append (p := "__html".toList) (q := [' ']) hbefore (by decide)
    (bracelessString html ++ "\x7d\x7d /></pre>".toList)
  have helement : "<pre><code className=\"".toList ++ cls ++
      "\" dangerouslySetInnerHTML=\x7b\x7b__html: ".toList ++ bracelessString html ++
      "\x7d\x7d /></pre>".toList = "<pre><code className=\"".toList ++ cls ++
      "\" dangerouslySetInnerHTML=\x7b\x7b".toList ++ ("__html".toList ++ ':' :: [' '] ++
        (bracelessString html ++ "\x7d\x7d /></pre>".toList)) := by
    simp
  rw [helement, htmlArgument?]
  exact Option.bind_eq_some_iff.2 ⟨_, hfind, unquote?_bracelessString html _⟩

/-- The HTML that an element hands over is a string of JSON behind `__html: `. Without the tags
around stretches, and with its entities read, it is the code of the fence. -/
theorem elementWith_shows_code (tokenizer : Option Text → Tokenizer) (f : Fence) :
    ∃ html, htmlArgument? (elementWith tokenizer f) = some (html, "\x7d\x7d /></pre>".toList) ∧
      unescapeHtml (removeAll spanTag html) = f.code :=
  ⟨_, htmlArgument?_elementWith tokenizer f, unescapeHtml_removeAll_highlightWith _ f.code⟩

end DocPreview.Highlight
