import Patchbay.Json.Reader
import Patchbay.Json.Writer
import Patchbay.Proofs.Json.Numeral

/-!
# Values are read as they are written

The text of a value is that of its tokens, with blanks in front of them. The scanner gets the tokens
back (`Token.scan_pieces`) as long as no word follows another one at once, which is the one thing
that a layout has to see to (`Legible`). The reader gets the value back from the tokens of any layout
(`Value.Tidy.readsBack`). So `Value.read` inverts `Value.write` in every style that puts nothing but
blanks between tokens (`Value.Tidy.read_write`), for every value whose literals can be written.
-/

namespace Patchbay.Json

/-! ## Literals -/

/-- A mark can be written: what has to be escaped does not stand for itself. -/
def Mark.Fits : Mark → Prop
  | .plain c => c ≠ '"' ∧ c ≠ '\\' ∧ 0x20 ≤ c.toNat
  | .escaped _ => True
  | .unit _ => True

/-- A literal can be written. -/
def Literal.Fits (literal : Literal) : Prop :=
  ∀ mark ∈ literal.marks, mark.Fits

theorem Mark.fits_ofChar (c : Char) : (Mark.ofChar c).Fits := by
  unfold Mark.ofChar
  split
  all_goals try trivial
  split
  · trivial
  · rename_i hquote hbackslash _ _ _ _ _ hlow
    exact ⟨hquote, hbackslash, by omega⟩

/-- Control characters are not halves of surrogate pairs. -/
theorem surrogate_of_control : ∀ n < 0x20, isHighSurrogate n.toUInt16 = false ∧
    isLowSurrogate n.toUInt16 = false ∧ n.toUInt16.toNat = n := by
  decide

/-- The mark of a character stands for it. -/
theorem Spelling.step_ofChar (chars : List Char) (c : Char) :
    Spelling.step ⟨chars, none⟩ (Mark.ofChar c) = some ⟨c :: chars, none⟩ := by
  unfold Mark.ofChar
  split
  all_goals try rfl
  split
  · rename_i hlow
    obtain ⟨hhigh, hlow, hnumber⟩ := surrogate_of_control c.toNat hlow
    simp [Spelling.step, Spelling.push, hhigh, hlow, hnumber]
  · rfl

theorem Spelling.foldlM_ofChar (chars before : List Char) :
    (chars.map Mark.ofChar).foldlM Spelling.step ⟨before, none⟩ =
      some ⟨chars.reverse ++ before, none⟩ := by
  induction chars generalizing before with
  | nil => rfl
  | cons c rest ih =>
    rw [List.map_cons, List.foldlM_cons, Spelling.step_ofChar]
    show List.foldlM _ _ _ = _
    rw [ih]
    simp

namespace Literal

theorem fits_ofText (text : String) : (ofText text).Fits := by
  intro mark hmem
  obtain ⟨c, _, rfl⟩ := List.mem_map.1 hmem
  exact Mark.fits_ofChar c

/-- The literal of a text stands for the text. -/
@[simp] theorem text?_ofText (text : String) : (ofText text).text? = some text := by
  unfold text? ofText Spelling.start
  rw [Spelling.foldlM_ofChar]
  simp

end Literal

/-! ## Scanning strings -/

theorem isWordChar_of_isBlank {c : Char} (h : isBlank c = true) : isWordChar c = false := by
  simp only [isBlank, Bool.or_eq_true, beq_iff_eq] at h
  rcases h with ((rfl | rfl) | rfl) | rfl <;> decide

theorem hexValue?_digitChar : ∀ digit < 0x10, hexValue? (Nat.digitChar digit) = some digit := by
  decide

namespace Scan

variable {tokens : List Token} {before : List Mark}

theorem step_digit {count value digit : Nat} (hdigit : digit < 0x10) (hcount : count ≠ 3) :
    step ⟨tokens, .unit before count value⟩ (Nat.digitChar digit) =
      some ⟨tokens, .unit before (count + 1) (16 * value + digit)⟩ := by
  simp [step, hexValue?_digitChar digit hdigit, hcount]

theorem step_lastDigit {value digit : Nat} (hdigit : digit < 0x10) :
    step ⟨tokens, .unit before 3 value⟩ (Nat.digitChar digit) =
      some ⟨tokens, .string (.unit (16 * value + digit).toUInt16 :: before)⟩ := by
  simp [step, hexValue?_digitChar digit hdigit]

/-- A unit is scanned from its four digits. -/
theorem foldlM_hexDigits (number : UInt16) :
    (Mark.hexDigits number).foldlM step ⟨tokens, .unit before 0 0⟩ =
      some ⟨tokens, .string (.unit number :: before)⟩ := by
  have hsize := number.toNat_lt
  have hvalue : 16 * (16 * (16 * (16 * 0 + number.toNat / 0x1000) + number.toNat / 0x100 % 0x10) +
      number.toNat / 0x10 % 0x10) + number.toNat % 0x10 = number.toNat := by omega
  unfold Mark.hexDigits
  simp only [List.foldlM_cons, List.foldlM_nil, Option.bind_eq_bind]
  rw [step_digit (by omega) (by decide), Option.bind_some, step_digit (by omega) (by decide),
    Option.bind_some, step_digit (by omega) (by decide), Option.bind_some,
    step_lastDigit (by omega), hvalue]
  simp

theorem foldlM_mark {mark : Mark} (h : mark.Fits) :
    mark.chars.foldlM step ⟨tokens, .string before⟩ = some ⟨tokens, .string (mark :: before)⟩ := by
  cases mark with
  | plain c =>
    obtain ⟨hquote, hbackslash, hlow⟩ := h
    have hlow : ¬ c.toNat < 0x20 := by omega
    simp [Mark.chars, step, hquote, hbackslash, hlow]
  | escaped escape => cases escape <;> rfl
  | unit number =>
    show (Mark.hexDigits number).foldlM step ⟨tokens, .unit before 0 0⟩ = _
    exact foldlM_hexDigits number

theorem foldlM_marks {marks : List Mark} (h : ∀ mark ∈ marks, mark.Fits) :
    (marks.flatMap Mark.chars).foldlM step ⟨tokens, .string before⟩ =
      some ⟨tokens, .string (marks.reverse ++ before)⟩ := by
  induction marks generalizing before with
  | nil => rfl
  | cons mark rest ih =>
    rw [List.forall_mem_cons] at h
    rw [List.flatMap_cons, List.foldlM_append, foldlM_mark h.1]
    show List.foldlM _ _ _ = _
    rw [ih h.2]
    simp

theorem foldlM_literal {literal : Literal} (h : literal.Fits) :
    literal.chars.foldlM step ⟨tokens, .nothing⟩ = some ⟨.string literal :: tokens, .nothing⟩ := by
  unfold Literal.chars
  rw [List.cons_append, List.foldlM_cons]
  show List.foldlM step ⟨tokens, .string []⟩ (_ ++ _) = _
  rw [List.foldlM_append, foldlM_marks h]
  simp [step, push]

/-! ## Scanning words -/

/-- The scan is between tokens, or in a word that may end there. -/
def Settled (scan : Scan) (tokens : List Token) : Prop :=
  scan.endWord = some ⟨tokens, .nothing⟩

theorem settled_nothing : Settled ⟨tokens, .nothing⟩ tokens :=
  rfl

/-- What cannot belong to a word ends it. -/
theorem Settled.step {scan : Scan} (h : scan.Settled tokens) {c : Char}
    (hc : isWordChar c = false) : scan.step c = Scan.step ⟨tokens, .nothing⟩ c := by
  obtain ⟨before, pending⟩ := scan
  cases pending with
  | nothing =>
    cases h
    rfl
  | word chars =>
    unfold Settled at h
    simp [Scan.step, hc, h]
  | _ => cases h

theorem foldlM_word {chars before : List Char} (h : ∀ c ∈ chars, isWordChar c = true) :
    chars.foldlM step ⟨tokens, .word before⟩ = some ⟨tokens, .word (chars.reverse ++ before)⟩ := by
  induction chars generalizing before with
  | nil => rfl
  | cons c rest ih =>
    rw [List.forall_mem_cons] at h
    have hstep : step ⟨tokens, .word before⟩ c = some ⟨tokens, .word (c :: before)⟩ := by
      simp [step, h.1]
    rw [List.foldlM_cons, hstep]
    show List.foldlM _ _ _ = _
    rw [ih h.2]
    simp

/-- Blanks are passed over. -/
theorem foldlM_blanks {gap : List Char} (h : ∀ c ∈ gap, isBlank c = true) :
    gap.foldlM step ⟨tokens, .nothing⟩ = some ⟨tokens, .nothing⟩ := by
  induction gap with
  | nil => rfl
  | cons c rest ih =>
    rw [List.forall_mem_cons] at h
    have hstep : step ⟨tokens, .nothing⟩ c = some ⟨tokens, .nothing⟩ := by
      simp [step, begin, h.1, isWordChar_of_isBlank h.1]
    rw [List.foldlM_cons, hstep]
    exact ih h.2

end Scan

/-! ## Scanning tokens -/

/-- Whether a token is a run of letters, digits, signs and points. -/
def Token.isWord : Token → Bool
  | .null => true
  | .bool _ => true
  | .number _ => true
  | _ => false

/-- A token can be written. -/
def Token.Fits : Token → Prop
  | .string literal => literal.Fits
  | _ => True

/-- A token that is no word does not begin like one. -/
theorem Token.head_chars {token : Token} (h : token.isWord = false) :
    ∃ c rest, token.chars = c :: rest ∧ isWordChar c = false := by
  cases token with
  | null => cases h
  | bool value => cases h
  | number numeral => cases h
  | string literal => exact ⟨_, _, rfl, by decide⟩
  | _ => exact ⟨_, _, rfl, by decide⟩

/-- The pieces can be scanned one after the other: gaps are blank, and no word follows another one
at once. `inWord` says whether a word comes before. -/
def Legible (inWord : Bool) : List Piece → Prop
  | [] => True
  | piece :: rest =>
    (∀ c ∈ piece.gap, isBlank c = true) ∧ piece.token.Fits ∧
      (inWord = true → piece.token.isWord = true → piece.gap ≠ []) ∧
      Legible piece.token.isWord rest

namespace Scan

variable {tokens : List Token} {scan : Scan} {token : Token} {piece : Piece} {pieces : List Piece}

/-- A word is scanned up to its end, and there it stands for its token. -/
theorem foldlM_wordToken (tokens : List Token) (hne : token.chars ≠ [])
    (hchars : ∀ c ∈ token.chars, isWordChar c = true)
    (htoken : Token.ofWord? token.chars = some token) :
    ∃ next, token.chars.foldlM step ⟨tokens, .nothing⟩ = some next ∧
      next.Settled (token :: tokens) := by
  generalize token.chars = chars at *
  cases chars with
  | nil => exact absurd rfl hne
  | cons c rest =>
    rw [List.forall_mem_cons] at hchars
    have hstep : step ⟨tokens, .nothing⟩ c = some ⟨tokens, .word [c]⟩ := by
      simp [step, begin, hchars.1]
    rw [List.foldlM_cons, hstep]
    refine ⟨_, foldlM_word hchars.2, ?_⟩
    simp [Settled, endWord, push, htoken]

theorem foldlM_token (tokens : List Token) (h : token.Fits) :
    ∃ next, token.chars.foldlM step ⟨tokens, .nothing⟩ = some next ∧
      next.Settled (token :: tokens) ∧ (token.isWord = false → next.pending = .nothing) := by
  cases hisWord : token.isWord with
  | true =>
    have hword : token.chars ≠ [] ∧ (∀ c ∈ token.chars, isWordChar c = true) ∧
        Token.ofWord? token.chars = some token := by
      cases token with
      | null => exact ⟨nofun, List.all_eq_true.1 rfl, rfl⟩
      | bool value => cases value <;> exact ⟨nofun, List.all_eq_true.1 rfl, rfl⟩
      | number numeral =>
        obtain ⟨c, rest, htext, _⟩ := numeral.head_text
        refine ⟨?_, numeral.isWordChar_text, numeral.ofWord?_text⟩
        show numeral.text ≠ []
        simp [htext]
      | _ => cases hisWord
    obtain ⟨next, hnext, hsettled⟩ := foldlM_wordToken tokens hword.1 hword.2.1 hword.2.2
    exact ⟨next, hnext, hsettled, nofun⟩
  | false =>
    cases token with
    | null => cases hisWord
    | bool value => cases hisWord
    | number numeral => cases hisWord
    | string literal => exact ⟨_, foldlM_literal h, rfl, fun _ => rfl⟩
    | _ => exact ⟨_, rfl, rfl, fun _ => rfl⟩

/-- What does not begin like a word is scanned as if the scan was between tokens. -/
theorem Settled.foldlM (h : scan.Settled tokens) {c : Char} {rest : List Char}
    (hc : isWordChar c = false) :
    (c :: rest).foldlM Scan.step scan = (c :: rest).foldlM Scan.step ⟨tokens, .nothing⟩ := by
  rw [List.foldlM_cons, List.foldlM_cons, h.step hc]

theorem foldlM_piece (hscan : scan.Settled tokens)
    (hgap : ∀ c ∈ piece.gap, isBlank c = true) (hfits : piece.token.Fits)
    (hapart : scan.pending = .nothing ∨ piece.gap ≠ [] ∨ piece.token.isWord = false) :
    ∃ next, piece.chars.foldlM step scan = some next ∧ next.Settled (piece.token :: tokens) ∧
      (piece.token.isWord = false → next.pending = .nothing) := by
  have hbetween : piece.chars.foldlM step scan = piece.chars.foldlM step ⟨tokens, .nothing⟩ := by
    obtain ⟨gap, token⟩ := piece
    unfold Piece.chars
    rcases hapart with hnothing | hne
    · obtain ⟨read, pending⟩ := scan
      cases hnothing
      cases hscan
      rfl
    -- a word may still be open here, and what comes first ends it: a blank or the token itself
    · cases gap with
      | cons c rest => exact hscan.foldlM (isWordChar_of_isBlank (hgap c List.mem_cons_self))
      | nil =>
        obtain ⟨c, rest, hchars, hc⟩ := Token.head_chars (hne.resolve_left fun h => h rfl)
        simp only [List.nil_append, hchars]
        exact hscan.foldlM hc
  obtain ⟨next, hnext, hsettled⟩ := foldlM_token tokens hfits
  refine ⟨next, ?_, hsettled⟩
  rw [hbetween, Piece.chars, List.foldlM_append, foldlM_blanks hgap]
  exact hnext

theorem foldlM_pieces {inWord : Bool} (h : Legible inWord pieces) (hscan : scan.Settled tokens)
    (hword : inWord = false → scan.pending = .nothing) :
    ∃ next, (pieces.flatMap Piece.chars).foldlM step scan = some next ∧
      next.Settled ((pieces.map (·.token)).reverse ++ tokens) := by
  induction pieces generalizing scan tokens inWord with
  | nil => exact ⟨scan, rfl, hscan⟩
  | cons piece rest ih =>
    obtain ⟨hgap, hfits, hapart, hrest⟩ := h
    have hpiece : scan.pending = .nothing ∨ piece.gap ≠ [] ∨ piece.token.isWord = false := by
      cases inWord with
      | false => exact .inl (hword rfl)
      | true =>
        cases hisWord : piece.token.isWord with
        | true => exact .inr (.inl (hapart rfl hisWord))
        | false => exact .inr (.inr rfl)
    obtain ⟨next, hnext, hsettled, hnothing⟩ := foldlM_piece hscan hgap hfits hpiece
    obtain ⟨last, hlast, hend⟩ := ih hrest hsettled hnothing
    refine ⟨last, ?_, ?_⟩
    · rw [List.flatMap_cons, List.foldlM_append, hnext]
      exact hlast
    · simpa using hend

end Scan

/-- Legible pieces are taken apart into their tokens. -/
theorem Token.scan_pieces {pieces : List Piece} (h : Legible false pieces) :
    Token.scan (pieces.flatMap Piece.chars) = some (pieces.map (·.token)) := by
  obtain ⟨last, hlast, hend⟩ := Scan.foldlM_pieces h Scan.settled_nothing fun _ => rfl
  unfold Scan.Settled at hend
  unfold Token.scan Scan.start
  rw [hlast]
  simp [Scan.finish, hend]

/-! ## Layouts -/

/-- A style puts nothing but blanks between tokens. -/
structure Style.Blank (style : Style) : Prop where
  line : ∀ depth, ∀ c ∈ style.line depth, isBlank c = true
  afterColon : ∀ c ∈ style.afterColon, isBlank c = true

theorem Style.blank_compact : Style.compact.Blank where
  line _ := nofun
  afterColon := nofun

theorem Style.blank_indented : Style.indented.Blank where
  line depth := by
    show ∀ c ∈ '\n' :: List.replicate (2 * depth) ' ', isBlank c = true
    rw [List.forall_mem_cons]
    refine ⟨by decide, ?_⟩
    intro c hmem
    rw [(List.mem_replicate.1 hmem).2]
    decide
  afterColon := List.all_eq_true.1 rfl

theorem Legible.weaken {inWord : Bool} {pieces : List Piece} (h : Legible true pieces) :
    Legible inWord pieces := by
  cases pieces with
  | nil => trivial
  | cons piece rest =>
    obtain ⟨hgap, hfits, hapart, hrest⟩ := h
    exact ⟨hgap, hfits, fun _ => hapart rfl, hrest⟩

/-- A token that is no word may follow anything. -/
theorem legible_cons {inWord : Bool} {gap : List Char} {token : Token} {rest : List Piece}
    (hgap : ∀ c ∈ gap, isBlank c = true) (hfits : token.Fits) (htoken : token.isWord = false)
    (hrest : Legible false rest) : Legible inWord (⟨gap, token⟩ :: rest) := by
  refine ⟨hgap, hfits, ?_, ?_⟩
  · intro _ hword
    rw [htoken] at hword
    cases hword
  · rw [htoken]
    exact hrest

namespace Value

/-- The literals in a value can be written. -/
inductive Tidy : Value → Prop
  | null : Tidy .null
  | bool (value : Bool) : Tidy (.bool value)
  | number (numeral : Numeral) : Tidy (.number numeral)
  | string {literal : Literal} : literal.Fits → Tidy (.string literal)
  | array {items : List Value} : (∀ item ∈ items, Tidy item) → Tidy (.array items)
  | object {members : List (Literal × Value)} :
      (∀ member ∈ members, member.1.Fits) → (∀ member ∈ members, Tidy member.2) →
      Tidy (.object members)

variable {style : Style} {value : Value}

/-- A value may be laid out where no word comes before, and leave room for anything that may
follow a word. -/
def LaysLegibly (style : Style) (value : Value) : Prop :=
  ∀ depth gap rest, (∀ c ∈ gap, isBlank c = true) → Legible true rest →
    Legible false (value.lay style depth gap ++ rest)

theorem legible_layItems (hstyle : style.Blank) {items : List Value}
    (hitems : ∀ item ∈ items, item.LaysLegibly style) (depth : Nat) (rest : List Piece)
    (hrest : Legible true rest) : Legible true (layItems style depth items ++ rest) := by
  induction items with
  | nil =>
    unfold layItems
    exact legible_cons (hstyle.line depth) trivial rfl hrest.weaken
  | cons item others ih =>
    rw [List.forall_mem_cons] at hitems
    unfold layItems
    simp only [List.cons_append, List.append_assoc]
    refine legible_cons nofun trivial rfl ?_
    exact hitems.1 _ _ _ (hstyle.line _) (ih hitems.2)

theorem legible_layMembers (hstyle : style.Blank) {members : List (Literal × Value)}
    (hnames : ∀ member ∈ members, member.1.Fits)
    (hmembers : ∀ member ∈ members, member.2.LaysLegibly style) (depth : Nat)
    (rest : List Piece) (hrest : Legible true rest) :
    Legible true (layMembers style depth members ++ rest) := by
  induction members with
  | nil =>
    unfold layMembers
    exact legible_cons (hstyle.line depth) trivial rfl hrest.weaken
  | cons member others ih =>
    rw [List.forall_mem_cons] at hnames hmembers
    unfold layMembers
    simp only [List.cons_append, List.append_assoc]
    refine legible_cons nofun trivial rfl ?_
    refine legible_cons (hstyle.line _) hnames.1 rfl ?_
    refine legible_cons nofun trivial rfl ?_
    exact hmembers.1 _ _ _ hstyle.afterColon (ih hnames.2 hmembers.2)

/-- Tidy values have legible layouts. -/
theorem Tidy.laysLegibly (hstyle : style.Blank) (h : value.Tidy) : value.LaysLegibly style := by
  induction h with
  | null => exact fun _ _ _ hgap hrest => ⟨hgap, trivial, nofun, hrest⟩
  | bool value => exact fun _ _ _ hgap hrest => ⟨hgap, trivial, nofun, hrest⟩
  | number numeral => exact fun _ _ _ hgap hrest => ⟨hgap, trivial, nofun, hrest⟩
  | string hfits => exact fun _ _ _ hgap hrest => legible_cons hgap hfits rfl hrest.weaken
  | @array items _ ih =>
    intro depth gap rest hgap hrest
    cases items with
    | nil =>
      unfold lay
      exact legible_cons hgap trivial rfl (legible_cons nofun trivial rfl hrest.weaken)
    | cons item others =>
      rw [List.forall_mem_cons] at ih
      unfold lay
      simp only [List.cons_append, List.append_assoc]
      -- the bracket before the first item is no word, the comma or bracket after it may follow one
      refine legible_cons hgap trivial rfl ?_
      exact ih.1 _ _ _ (hstyle.line _) (legible_layItems hstyle ih.2 depth rest hrest)
  | @object members hnames _ ih =>
    intro depth gap rest hgap hrest
    cases members with
    | nil =>
      unfold lay
      exact legible_cons hgap trivial rfl (legible_cons nofun trivial rfl hrest.weaken)
    | cons member others =>
      rw [List.forall_mem_cons] at hnames ih
      unfold lay
      simp only [List.cons_append, List.append_assoc]
      refine legible_cons hgap trivial rfl ?_
      refine legible_cons (hstyle.line _) hnames.1 rfl ?_
      refine legible_cons nofun trivial rfl ?_
      exact ih.1 _ _ _ hstyle.afterColon (legible_layMembers hstyle hnames.2 ih.2 depth rest hrest)

/-! ## Reading layouts -/

/-- The tokens of every layout of a value are read as that value. -/
def ReadsBack (style : Style) (value : Value) : Prop :=
  ∀ depth gap stack,
    ((value.lay style depth gap).map (·.token)).foldlM Reader.step (.wantValue stack) =
      some (.after value stack)

/-- No value begins with the end of an array, so the first item is read like any other. -/
theorem foldlM_firstItem (value : Value) (depth : Nat) (gap : List Char) (stack : List Frame) :
    ((value.lay style depth gap).map (·.token)).foldlM Reader.step (.firstItem stack) =
      ((value.lay style depth gap).map (·.token)).foldlM Reader.step
        (.wantValue (.array [] :: stack)) := by
  cases value with
  | array items => cases items <;> simp only [lay] <;> rfl
  | object members => cases members <;> simp only [lay] <;> rfl
  | _ => rfl

theorem foldlM_layItems {items : List Value} (hitems : ∀ item ∈ items, item.ReadsBack style)
    (depth : Nat) (before : List Value) (last : Value) (stack : List Frame) :
    ((layItems style depth items).map (·.token)).foldlM Reader.step
        (.after last (.array before :: stack)) =
      some (.after (.array (before.reverse ++ last :: items)) stack) := by
  induction items generalizing before last with
  | nil => simp [layItems, Reader.step]
  | cons item others ih =>
    rw [List.forall_mem_cons] at hitems
    unfold layItems
    rw [List.cons_append, List.map_cons, List.foldlM_cons]
    show List.foldlM Reader.step (.wantValue (.array (last :: before) :: stack)) _ = _
    rw [List.map_append, List.foldlM_append, hitems.1]
    show List.foldlM Reader.step (.after item (.array (last :: before) :: stack)) _ = _
    rw [ih hitems.2]
    simp

theorem foldlM_layMembers {members : List (Literal × Value)}
    (hmembers : ∀ member ∈ members, member.2.ReadsBack style)
    (depth : Nat) (before : List (Literal × Value)) (name : Literal) (last : Value)
    (stack : List Frame) :
    ((layMembers style depth members).map (·.token)).foldlM Reader.step
        (.after last (.object before name :: stack)) =
      some (.after (.object (before.reverse ++ (name, last) :: members)) stack) := by
  induction members generalizing before name last with
  | nil => simp [layMembers, Reader.step]
  | cons member others ih =>
    obtain ⟨next, value⟩ := member
    rw [List.forall_mem_cons] at hmembers
    unfold layMembers
    simp only [List.cons_append, List.map_cons, List.foldlM_cons]
    show List.foldlM Reader.step (.wantValue (.object ((name, last) :: before) next :: stack)) _ = _
    rw [List.map_append, List.foldlM_append, hmembers.1]
    show List.foldlM Reader.step
      (.after value (.object ((name, last) :: before) next :: stack)) _ = _
    rw [ih hmembers.2]
    simp

theorem Tidy.readsBack (h : value.Tidy) : value.ReadsBack style := by
  induction h with
  | null => exact fun _ _ _ => rfl
  | bool value => exact fun _ _ _ => rfl
  | number numeral => exact fun _ _ _ => rfl
  | string hfits => exact fun _ _ _ => rfl
  | @array items _ ih =>
    intro depth gap stack
    cases items with
    | nil => rfl
    | cons item others =>
      rw [List.forall_mem_cons] at ih
      unfold lay
      rw [List.cons_append, List.map_cons, List.foldlM_cons]
      show List.foldlM Reader.step (.firstItem stack) _ = _
      rw [List.map_append, List.foldlM_append, foldlM_firstItem, ih.1]
      exact foldlM_layItems ih.2 depth [] item stack
  | @object members _ _ ih =>
    intro depth gap stack
    cases members with
    | nil => rfl
    | cons member others =>
      obtain ⟨name, value⟩ := member
      rw [List.forall_mem_cons] at ih
      unfold lay
      simp only [List.cons_append, List.map_cons, List.foldlM_cons]
      show List.foldlM Reader.step (.wantValue (.object [] name :: stack)) _ = _
      rw [List.map_append, List.foldlM_append, ih.1]
      exact foldlM_layMembers ih.2 depth [] name value stack

/-- Reading inverts writing. -/
theorem Tidy.read_write (hstyle : style.Blank) (h : value.Tidy) :
    read (value.write style) = some value := by
  have hlegible : Legible false (value.lay style 0 []) := by
    have hlays := h.laysLegibly hstyle 0 [] [] nofun trivial
    rw [List.append_nil] at hlays
    exact hlays
  have htokens : ((value.lay style 0 []).map (·.token)).foldlM Reader.step (.wantValue []) =
      some (.after value []) := h.readsBack 0 [] []
  unfold read write
  rw [String.toList_ofList, Token.scan_pieces hlegible]
  show ofTokens? _ = _
  unfold ofTokens?
  rw [htokens]
  rfl

end Value

end Patchbay.Json
