/-!
# Identifiers

ASCII identifiers and the other spellings of names that schemas and settings may use.
-/

namespace ClientWrap.Text

/-- The characters that may begin an identifier. -/
def isIdentStart (c : Char) : Bool :=
  c.isAlpha || c == '_'

/-- The characters that may follow in an identifier. -/
def isIdentRest (c : Char) : Bool :=
  c.isAlphanum || c == '_'

/-- Whether the text is an identifier. -/
def isIdentifier : List Char → Bool
  | [] => false
  | c :: rest => isIdentStart c && rest.all isIdentRest

/-- Whether the text is the name of an exported identifier: an identifier that begins with a
capital letter. -/
def isExported : List Char → Bool
  | [] => false
  | c :: rest => c.isUpper && rest.all isIdentRest

/-- Whether the text is a package name: an identifier without capital letters. -/
def isPackageName : List Char → Bool
  | [] => false
  | c :: rest =>
    (c.isLower || c == '_') && rest.all fun d => d.isLower || d.isDigit || d == '_'

/-- An exported name is an identifier. -/
theorem isIdentifier_of_isExported {s : List Char} (h : isExported s = true) :
  isIdentifier s = true
  := by
  cases s with
  | nil => simp [isExported] at h
  | cons c rest =>
    simp only [isExported, isIdentifier, isIdentStart, Bool.and_eq_true, Bool.or_eq_true] at h ⊢
    have hc : c.isAlpha = true := by
      change (c.isUpper || c.isLower) = true
      rw [h.1, Bool.true_or]
    exact ⟨Or.inl hc, h.2⟩

end ClientWrap.Text
