/-! Blank characters and byte lengths: what separates the words of a rule, and how far into the
encoded text a character lies. -/

namespace PostSieve

/-- The characters with the white-space property: the ASCII blanks, next line, the no-break
spaces, the typographic spaces and the line and paragraph separators. -/
def isBlank (c : Char) : Bool :=
  let n := c.toNat
  (9 ≤ n && n ≤ 13) || n == 0x20 || n == 0x85 || n == 0xA0 || n == 0x1680 ||
    (0x2000 ≤ n && n ≤ 0x200A) || n == 0x2028 || n == 0x2029 || n == 0x202F || n == 0x205F ||
    n == 0x3000

def dropBlanks (text : List Char) : List Char := text.dropWhile isBlank

/-- The characters of a class at the start of a text are left out, up to one that is not of it. -/
theorem dropWhile_append_of_head {p : Char → Bool} {front rest : List Char}
    (hFront : ∀ c ∈ front, p c = true) (hRest : ∀ c ∈ rest.head?, p c = false) :
    (front ++ rest).dropWhile p = rest := by
  rw [List.dropWhile_append_of_pos hFront]
  cases rest with
  | nil => rfl
  | cons c rest => rw [List.dropWhile_cons_of_neg (by simp [hRest c rfl])]

/-- The text without the blanks at its two ends. -/
def trimBlanks (text : List Char) : List Char :=
  (dropBlanks (dropBlanks text).reverse).reverse

/-- The number of bytes that encode `text`. -/
def byteLength : List Char → Nat
  | [] => 0
  | c :: text => c.utf8Size + byteLength text

@[simp] theorem byteLength_nil : byteLength [] = 0 := rfl

@[simp] theorem byteLength_cons (c : Char) (text : List Char) :
    byteLength (c :: text) = c.utf8Size + byteLength text := rfl

@[simp] theorem byteLength_append (s t : List Char) :
    byteLength (s ++ t) = byteLength s + byteLength t := by
  induction s with
  | nil => rw [List.nil_append, byteLength_nil, Nat.zero_add]
  | cons c s ih => rw [List.cons_append, byteLength_cons, byteLength_cons, ih, Nat.add_assoc]

theorem length_dropBlanks_le (text : List Char) : (dropBlanks text).length ≤ text.length :=
  (List.dropWhile_suffix _).length_le

end PostSieve
