import PostSieve.Proofs.Json.Grammar

/-! Reading strings: every way to write a string is read as that string, and every well-formed
string can be skipped. -/

namespace PostSieve.Json

/-- Whether a decoder finds a value at the start of a text, and leaves `rest`. -/
def Reads {α : Type} (decoder : Decoder α) (text : List Char) (value : α) (rest : List Char) :
    Prop :=
  ∃ shorter, decoder text = .ok ⟨value, rest, shorter⟩

/-! ### Escapes -/

theorem hexValue?_digitChar {n : Nat} (h : n < 16) :
    Unicode.hexValue? (Nat.digitChar n) = some n ∧
      Unicode.hexValue? (Nat.digitChar n).toUpper = some n := by
  have hAll : ∀ n < 16, Unicode.hexValue? (Nat.digitChar n) = some n ∧
      Unicode.hexValue? (Nat.digitChar n).toUpper = some n := by decide
  exact hAll n h

theorem IsHexDigit.hexValue?_eq {c : Char} {n : Nat} (h : IsHexDigit c n) :
    Unicode.hexValue? c = some n := by
  obtain ⟨hLt, rfl | rfl⟩ := h
  · exact (hexValue?_digitChar hLt).1
  · exact (hexValue?_digitChar hLt).2

theorem WritesUnit.reads {unit : Nat} {digits : List Char} (h : WritesUnit unit digits)
    (rest : List Char) : Reads readUnit (digits ++ rest) unit rest := by
  obtain ⟨a, b, c, d, i, j, k, l, rfl, ha, hb, hc, hd, rfl⟩ := h
  refine ⟨by simp; omega, ?_⟩
  simp only [readUnit, List.cons_append, List.nil_append, ha.hexValue?_eq, hb.hexValue?_eq,
    hc.hexValue?_eq, hd.hexValue?_eq]

/-- Without pairs, a code is taken as it is. -/
theorem reads_code_single {strict : Bool} {text rest : List Char} {unit : Nat}
    (h : Reads readUnit text unit rest)
    (hSingle : strict = false ∨ unit < 0xD800 ∨ 0xDFFF < unit) :
    Reads (readCode strict) text (Char.ofNat unit) rest := by
  obtain ⟨shorter, hUnit⟩ := h
  refine ⟨shorter, ?_⟩
  have hTaken : (!strict) = true ∨ unit < 0xD800 ∨ 0xDFFF < unit := by
    rcases hSingle with rfl | hUnit
    · exact Or.inl rfl
    · exact Or.inr hUnit
  rw [readCode, hUnit]
  exact if_pos hTaken

theorem reads_code_pair {text rest rest' : List Char} {high low : Nat} {c : Char}
    (hHigh : Reads readUnit text high ('\\' :: 'u' :: rest)) (hLow : Reads readUnit rest low rest')
    (h₁ : 0xD800 ≤ high) (h₂ : high < 0xDC00) (h₃ : 0xDC00 ≤ low) (h₄ : low < 0xE000)
    (hc : c.toNat = 0x10000 + (high - 0xD800) * 0x400 + (low - 0xDC00)) :
    Reads (readCode true) text c rest' := by
  obtain ⟨shorter, hHigh⟩ := hHigh
  obtain ⟨shorter', hLow⟩ := hLow
  simp only [List.length_cons] at shorter
  have hChar : pairChar high low = c := by rw [pairChar, ← hc, Char.ofNat_toNat]
  have hNotLow : ¬(low < 0xDC00 ∨ 0xDFFF < low) := by omega
  refine ⟨by omega, ?_⟩
  rw [readCode, hHigh]
  simp [Bind.bind, Except.bind, Nat.not_lt.mpr h₁, show ¬0xDFFF < high by omega,
    show ¬0xDC00 ≤ high by omega, hLow, hNotLow, pure, Except.pure, hChar]

theorem reads_escape_short {strict : Bool} {letter c : Char} (h : (letter, c) ∈ shortEscapes)
    (rest : List Char) : Reads (readEscape strict) (letter :: rest) c rest := by
  simp only [shortEscapes, List.mem_cons, Prod.mk.injEq, List.not_mem_nil, or_false] at h
  rcases h with ⟨rfl, rfl⟩ | ⟨rfl, rfl⟩ | ⟨rfl, rfl⟩ | ⟨rfl, rfl⟩ | ⟨rfl, rfl⟩ | ⟨rfl, rfl⟩ |
    ⟨rfl, rfl⟩ | ⟨rfl, rfl⟩ <;> exact ⟨Nat.lt_succ_self _, rfl⟩

theorem reads_escape_code {strict : Bool} {text rest : List Char} {c : Char}
    (h : Reads (readCode strict) text c rest) :
    Reads (readEscape strict) ('u' :: text) c rest := by
  obtain ⟨shorter, hCode⟩ := h
  refine ⟨Nat.lt_succ_of_lt shorter, ?_⟩
  simp only [readEscape, hCode]
  rfl

/-! ### Characters -/

theorem reads_chars_done {strict : Bool} (rest : List Char) :
    Reads (readChars strict) ('"' :: rest) [] rest := by
  refine ⟨Nat.lt_succ_self _, ?_⟩
  rw [readChars]
  rfl

theorem reads_chars_plain {strict : Bool} {c : Char} {text cs rest : List Char}
    (hLow : 0x20 ≤ c.toNat) (hQuote : c ≠ '"') (hEscape : c ≠ '\\')
    (h : Reads (readChars strict) text cs rest) :
    Reads (readChars strict) (c :: text) (c :: cs) rest := by
  obtain ⟨shorter, hText⟩ := h
  refine ⟨Nat.lt_succ_of_lt shorter, ?_⟩
  rw [readChars]
  simp only [if_neg hQuote, if_neg hEscape, if_neg (Nat.not_lt.mpr hLow), hText]
  rfl

theorem reads_chars_escape {strict : Bool} {c : Char} {text mid cs rest : List Char}
    (hEscape : Reads (readEscape strict) text c mid) (h : Reads (readChars strict) mid cs rest) :
    Reads (readChars strict) ('\\' :: text) (c :: cs) rest := by
  obtain ⟨shorter, hEscape⟩ := hEscape
  obtain ⟨shorter', hMid⟩ := h
  refine ⟨Nat.lt_succ_of_lt (Nat.lt_trans shorter' shorter), ?_⟩
  have hNe : '\\' ≠ '"' := by decide
  rw [readChars]
  simp only [if_neg hNe, if_true, hEscape, Bind.bind, Except.bind, hMid]
  rfl

theorem not_surrogate (c : Char) : c.toNat < 0xD800 ∨ 0xDFFF < c.toNat := by
  rcases c.valid with h | ⟨h, -⟩
  · exact Or.inl h
  · exact Or.inr h

/-- However a character is written, it is read. -/
theorem WritesChar.reads {c : Char} {part text cs rest : List Char} (hPart : WritesChar c part)
    (h : Reads (readChars true) text cs rest) :
    Reads (readChars true) (part ++ text) (c :: cs) rest := by
  cases hPart with
  | plain hLow hQuote hEscape => exact reads_chars_plain hLow hQuote hEscape h
  | short hShort => exact reads_chars_escape (reads_escape_short hShort text) h
  | code hUnit =>
    have hCode : Reads (readCode true) _ _ text :=
      reads_code_single (hUnit.reads text) (Or.inr (not_surrogate c))
    rw [Char.ofNat_toNat] at hCode
    exact reads_chars_escape (reads_escape_code hCode) h
  | @pair high low digits digits' h₁ h₂ h₃ h₄ hc hHigh hLow =>
    have hHigh := hHigh.reads ('\\' :: 'u' :: (digits' ++ text))
    have hCode := reads_code_pair hHigh (hLow.reads text) h₁ h₂ h₃ h₄ hc
    have hAppend : '\\' :: 'u' :: (digits ++ '\\' :: 'u' :: digits') ++ text =
        '\\' :: 'u' :: (digits ++ '\\' :: 'u' :: (digits' ++ text)) := by simp
    rw [hAppend]
    exact reads_chars_escape (reads_escape_code hCode) h

/-- Where pairs do not matter, every part of a string is read as some character. -/
theorem IsStringPart.reads {part text cs rest : List Char} (hPart : IsStringPart part)
    (h : Reads (readChars false) text cs rest) :
    ∃ c, Reads (readChars false) (part ++ text) (c :: cs) rest := by
  cases hPart with
  | plain hLow hQuote hEscape => exact ⟨_, reads_chars_plain hLow hQuote hEscape h⟩
  | short hShort => exact ⟨_, reads_chars_escape (reads_escape_short hShort text) h⟩
  | code hUnit =>
    have hCode := reads_code_single (hUnit.reads text) (Or.inl (Eq.refl false))
    exact ⟨_, reads_chars_escape (reads_escape_code hCode) h⟩

/-! ### Strings -/

theorem reads_chars_of_writes {cs : List Char} {parts : List (List Char)}
    (h : List.Forall₂ WritesChar cs parts) (rest : List Char) :
    Reads (readChars true) (parts.flatten ++ '"' :: rest) cs rest := by
  induction h with
  | nil => exact reads_chars_done rest
  | cons hPart _ ih =>
    rw [List.flatten_cons, List.append_assoc]
    exact hPart.reads ih

theorem exists_reads_chars {parts : List (List Char)} (h : ∀ part ∈ parts, IsStringPart part)
    (rest : List Char) : ∃ cs, Reads (readChars false) (parts.flatten ++ '"' :: rest) cs rest := by
  induction parts with
  | nil => exact ⟨[], reads_chars_done rest⟩
  | cons part parts ih =>
    rw [List.forall_mem_cons] at h
    obtain ⟨cs, hParts⟩ := ih h.2
    obtain ⟨c, hPart⟩ := h.1.reads hParts
    refine ⟨c :: cs, ?_⟩
    rw [List.flatten_cons, List.append_assoc]
    exact hPart

/-- A written string is an opening quote, and a text from which the string is read. -/
theorem WritesString.exists_reads {s : String} {text : List Char} (h : WritesString s text) :
    ∃ body, text = '"' :: body ∧ ∀ rest, Reads readString (body ++ rest) s rest := by
  obtain ⟨parts, hParts, rfl⟩ := h
  refine ⟨parts.flatten ++ ['"'], rfl, fun rest => ?_⟩
  obtain ⟨shorter, hChars⟩ := reads_chars_of_writes hParts rest
  rw [List.append_assoc]
  refine ⟨shorter, ?_⟩
  rw [readString]
  simp only [List.cons_append, List.nil_append, hChars, Bind.bind, Except.bind, pure, Except.pure,
    Read.map, String.ofList_toList]

theorem IsString.exists_reads {text : List Char} (h : IsString text) :
    ∃ body, text = '"' :: body ∧ ∀ rest, ∃ cs, Reads (readChars false) (body ++ rest) cs rest := by
  obtain ⟨parts, hParts, rfl⟩ := h
  refine ⟨parts.flatten ++ ['"'], rfl, fun rest => ?_⟩
  rw [List.append_assoc]
  exact exists_reads_chars hParts rest

end PostSieve.Json
