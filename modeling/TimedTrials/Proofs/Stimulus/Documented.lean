/-
  TimedTrials/Proofs/Stimulus/Documented.lean
  ===========================================
  **A stimulus that is written as documented is read as it was meant.**

  An author puts together markup and images, each image as `[image:FILE(V-H, width=W, height=H)]`
  with its place by name and the sizes that it asks for. Neighbours cannot merge: an opener that
  begins in markup would have to go on with the `[` of the next image, which it holds only in
  front (`Directive.dropHead?_mark_append`); and once an image is closed, what follows makes no
  difference to it. So the pieces are found as they were put (`Piece.ofChars_items`), and each
  image's options say what they were written for (`Placed.ofDirective_documented`).
-/
import TimedTrials.Proofs.Number.Numerals
import TimedTrials.Proofs.Stimulus.Lossless
import TimedTrials.Proofs.Text.Occurrence

namespace TimedTrials

open Text (contains)

/-! ### What an author writes -/

/-- What a stimulus is put together from: markup, or an image and the place it asks for. -/
inductive Item where
  | markup (text : String)
  | image (ref : ImageRef) (position : Position)
deriving DecidableEq, Repr

namespace Item

/-- A size that is asked for, as one more option. -/
def sizeOption (key : String) : Option Nat → String
  | some n => ", " ++ key ++ "=" ++ String.ofList (Number.natDigits n)
  | none => ""

/-- The options of an image: its place by name, and the sizes that it asks for. -/
def options (ref : ImageRef) (position : Position) : String :=
  position.name ++ sizeOption "width" ref.width ++ sizeOption "height" ref.height

/-- The text of an item: markup as it is, an image as a directive with all of its options. -/
def text : Item → String
  | .markup text => text
  | .image ref position => "[image:" ++ ref.file ++ "(" ++ options ref position ++ ")]"

/-- What an item becomes in a stimulus. -/
def segment : Item → Segment
  | .markup text => .markup text
  | .image ref _ => .image ref

def position? : Item → Option Position
  | .markup _ => none
  | .image _ position => some position

def isMarkup : Item → Bool
  | .markup _ => true
  | .image _ _ => false

/-- Markup that holds no opener of a directive, and images whose file name can be written: it has
    blanks at neither end and none of the characters that end it. -/
inductive Documented : Item → Prop where
  | markup {text : String} (hne : text ≠ "")
      (hopener : contains Directive.mark text.toList = false) : Documented (.markup text)
  | image {ref : ImageRef} (position : Position) (hne : ref.file ≠ "")
      (htrimmed : Text.trim ref.file = ref.file)
      (hname : ∀ c ∈ ref.file.toList, c ≠ '(' ∧ c ≠ ')' ∧ c ≠ ']')
      (hwidth : ∀ width ∈ ref.width, width ≤ Number.max32)
      (hheight : ∀ height ∈ ref.height, height ≤ Number.max32) : Documented (.image ref position)

/-- The piece that an item is found as. -/
def piece : Item → Piece
  | .markup text => .markup text.toList
  | .image ref position => .directive ⟨ref.file.toList, (options ref position).toList,
      Directive.mark ++ ref.file.toList ++ '(' :: (options ref position).toList ++ [')', ']']⟩

/-- Items in their order as one text. -/
def joined (items : List Item) : String := String.join (items.map text)

/-- Where items stand: the last image decides. -/
def place (items : List Item) : Position := (items.filterMap position?).getLast?.getD .middle

end Item

namespace Placed

/-! ### Options that are read back -/

variable {xs token : List Char} {p : Placed} {n : Nat}

theorem tokens_append_cons (xs ys : List Char) :
    tokens (xs ++ ',' :: ys) = tokens xs ++ tokens ys := by
  rw [tokens, List.splitOn_append_cons_self, List.map_append, List.filter_append]
  rfl

theorem tokens_eq_singleton (hcomma : ',' ∉ xs) (htrimmed : Text.trimChars xs = token)
    (hne : token ≠ []) : tokens xs = [token] := by
  rw [tokens, List.splitOn_eq_singleton hcomma, List.map_singleton, htrimmed,
    List.filter_singleton, List.isEmpty_eq_false_iff.mpr hne]
  rfl

/-- The token of a size that is asked for. -/
def sizeTokens (key : String) : Option Nat → List (List Char)
  | some n => [key.toList ++ '=' :: Number.natDigits n]
  | none => []

theorem tokens_sizeOption {key : String} (hkey : key = "width" ∨ key = "height")
    (xs : List Char) (size : Option Nat) :
    tokens (xs ++ (Item.sizeOption key size).toList) = tokens xs ++ sizeTokens key size := by
  have hname : ∀ c ∈ key.toList, Text.isBlank c = false ∧ c ≠ ',' := by
    rcases hkey with rfl | rfl <;> simp [Text.isBlank, Text.blankCodes]
  cases size with
  | none => simp [Item.sizeOption, sizeTokens]
  | some n =>
    let token := key.toList ++ '=' :: Number.natDigits n
    have htext : (Item.sizeOption key (some n)).toList = ',' :: ' ' :: token := by
      simp [Item.sizeOption, token]
    have hblank : ∀ c ∈ token, Text.isBlank c = false := by
      simp only [token, List.forall_mem_append, List.forall_mem_cons]
      exact ⟨fun c hc => (hname c hc).1, by decide,
        fun c hc => Number.isBlank_of_isDigit (Number.isDigit_natDigits hc)⟩
    have hcomma : ',' ∉ ' ' :: token := by
      simp only [token, List.mem_cons, List.mem_append, not_or]
      exact ⟨by decide, fun hmem => (hname _ hmem).2 rfl, by decide,
        Number.natDigits_ne (by decide)⟩
    -- the blank behind the comma is all that is taken off
    have htrimmed : Text.trimChars (' ' :: token) = token := Text.stripEnds_eq_self hblank
    rw [htext, tokens_append_cons, tokens_eq_singleton hcomma htrimmed (by simp [token])]
    rfl

/-- The options of an image are split into its place and its sizes. -/
theorem tokens_options (ref : ImageRef) (position : Position) :
    tokens (Item.options ref position).toList =
      position.name.toList :: (sizeTokens "width" ref.width ++ sizeTokens "height" ref.height) := by
  have hplace : tokens position.name.toList = [position.name.toList] := by
    obtain ⟨vertical, horizontal⟩ := position
    cases vertical <;> cases horizontal <;> rfl
  rw [Item.options, String.toList_append, tokens_sizeOption (.inr rfl), String.toList_append,
    tokens_sizeOption (.inl rfl), hplace]
  rfl

/-- The value of a size is read as it was written. -/
theorem sizeText_natDigits (n : Nat) : sizeText (Number.natDigits n) = Number.natDigits n := by
  have hblank : ∀ c ∈ Number.natDigits n, Text.isBlank c = false := fun c hc =>
    Number.isBlank_of_isDigit (Number.isDigit_natDigits hc)
  have hquotes : ∀ d : Char, d.isDigit = false → ∀ c ∈ Number.natDigits n, (c == d) = false := by
    intro d hd c hc
    rw [beq_eq_false_iff_ne]
    rintro rfl
    exact Number.natDigits_ne hd hc
  rw [sizeText, Text.trimChars, Text.stripEnds_eq_self hblank,
    Text.stripEnds_eq_self (hquotes '\'' (by decide)),
    Text.stripEnds_eq_self (hquotes '"' (by decide))]

/-- An image with one of its sizes set, if there is one to set. -/
def sized (image : ImageRef) (key : String) : Option Nat → ImageRef
  | some n =>
    if key = "width" then ⟨image.file, some n, image.height⟩ else ⟨image.file, image.width, some n⟩
  | none => image

/-- A size that is asked for is taken. -/
theorem takeOption_size {key : String} (hkey : key = "width" ∨ key = "height")
    (h : n ≤ Number.max32) : takeOption p (key.toList ++ '=' :: Number.natDigits n) =
      .ok { p with image := sized p.image key (some n) } := by
  have hequals : ∀ c ∈ key.toList, (c == '=') = false := by rcases hkey with rfl | rfl <;> simp
  have hname : String.ofList (Text.lowerChars (Text.trimChars key.toList)) = key := by
    rcases hkey with rfl | rfl <;> decide
  have hcut : Text.cutAt? (· == '=') (key.toList ++ '=' :: Number.natDigits n) =
      some (key.toList, '=', Number.natDigits n) :=
    Text.cutAt?_eq_some_iff.mpr ⟨rfl, hequals, rfl⟩
  simp only [takeOption, hcut, hname, sizeText_natDigits, Number.readNat?_natDigits h]
  rcases hkey with rfl | rfl <;> rfl

theorem foldlM_sizeTokens {key : String} (hkey : key = "width" ∨ key = "height")
    {size : Option Nat} (h : ∀ n ∈ size, n ≤ Number.max32) (p : Placed) :
    (sizeTokens key size).foldlM takeOption p = .ok { p with image := sized p.image key size } := by
  cases size with
  | none => rfl
  | some n =>
    rw [sizeTokens, List.foldlM_cons, takeOption_size hkey (h n rfl)]
    rfl

/-- A place is read from its name. -/
theorem takeOption_place (file : List Char) (position : Position) :
    takeOption (bare file) position.name.toList =
      .ok ⟨⟨String.ofList file, none, none⟩, position, []⟩ := by
  obtain ⟨vertical, horizontal⟩ := position
  cases vertical <;> cases horizontal <;> rfl

/-- **The options of an image say what they were written for.** -/
theorem ofDirective_options {ref : ImageRef} (position : Position) (source : List Char)
    (hwidth : ∀ width ∈ ref.width, width ≤ Number.max32)
    (hheight : ∀ height ∈ ref.height, height ≤ Number.max32) :
    ofDirective ⟨ref.file.toList, (Item.options ref position).toList, source⟩ =
      .ok ⟨ref, position, []⟩ := by
  let start : Placed := ⟨⟨ref.file, none, none⟩, position, []⟩
  have hplace : takeOption (bare ref.file.toList) position.name.toList = .ok start := by
    rw [takeOption_place, String.ofList_toList]
  have hsizes : (sizeTokens "width" ref.width ++ sizeTokens "height" ref.height).foldlM takeOption
      start = .ok { start with
        image := sized (sized start.image "width" ref.width) "height" ref.height } := by
    rw [List.foldlM_append, foldlM_sizeTokens (.inl rfl) hwidth]
    exact foldlM_sizeTokens (.inr rfl) hheight _
  have himage : sized (sized start.image "width" ref.width) "height" ref.height = ref := by
    obtain ⟨file, width, height⟩ := ref
    cases width <;> cases height <;> rfl
  rw [ofDirective, tokens_options, List.foldlM_cons, hplace]
  exact hsizes.trans (by rw [himage])

end Placed

namespace Directive

/-! ### Finding the pieces -/

variable {cs rest : List Char}

/-- An opener that begins in front of another one does not go over into it. -/
theorem dropHead?_mark_append (hne : cs ≠ []) (hrest : ∀ c ∈ rest.head?, c ∉ mark.tail) :
    Text.dropHead? mark (cs ++ rest) = (Text.dropHead? mark cs).map (· ++ rest) := by
  obtain ⟨c, cs, rfl⟩ := List.exists_cons_of_ne_nil hne
  have hmark : mark = '[' :: mark.tail := by decide
  rw [hmark, List.cons_append, Text.dropHead?, Text.dropHead?, Text.dropHead?_append_tail hrest]
  split <;> rfl

/-- A text without an opener begins with no directive, whatever opener follows. -/
theorem at?_append_eq_none (hne : cs ≠ []) (hopener : contains mark cs = false)
    (hrest : ∀ c ∈ rest.head?, c ∉ mark.tail) : at? (cs ++ rest) = none := by
  obtain ⟨c, cs, rfl⟩ := List.exists_cons_of_ne_nil hne
  rw [Text.contains_cons, Bool.or_eq_false_iff, Option.isSome_eq_false_iff,
    Option.isNone_iff_eq_none] at hopener
  rw [at?, dropHead?_mark_append hne hrest, hopener.1]
  rfl

end Directive

namespace Piece

variable {cs rest : List Char}

theorem ofCharsFrom_append (cs rest : List Char) :
    ofCharsFrom cs.length (cs ++ rest) = ofChars rest := by
  induction cs with
  | nil => rfl
  | cons c cs ih => exact ih

/-- A directive is found where it was put. -/
theorem ofChars_directive_append {d : Directive} (h : d.Written) (rest : List Char) :
    ofChars (d.source ++ rest) = .directive d :: ofChars rest := by
  have hat := h.at?_eq rest
  obtain ⟨first, more, hsource⟩ := List.exists_cons_of_ne_nil h.source_ne_nil
  rw [hsource] at hat ⊢
  rw [List.cons_append] at hat ⊢
  rw [ofChars, ofCharsFrom, hat]
  simp only [hsource, List.length_cons, Nat.add_sub_cancel, ofCharsFrom_append]

/-- Markup is found where it was put, if no more of it follows. -/
theorem ofChars_markup_append (hne : cs ≠ []) (hopener : contains Directive.mark cs = false)
    (hrest : ∀ c ∈ rest.head?, c ∉ Directive.mark.tail)
    (hnext : ∀ next ∈ (ofChars rest).head?, next.isMarkup = false) :
    ofChars (cs ++ rest) = .markup cs :: ofChars rest := by
  induction cs with
  | nil => exact absurd rfl hne
  | cons c cs ih =>
    have hat : Directive.at? (c :: (cs ++ rest)) = none :=
      Directive.at?_append_eq_none hne hopener hrest
    rw [List.cons_append, ofChars_cons_of_at?_eq_none hat]
    cases cs with
    | nil =>
      rw [List.nil_append]
      cases hpieces : ofChars rest with
      | nil => rfl
      | cons next pieces =>
        have hfirst : next.isMarkup = false := hnext next (by rw [hpieces]; rfl)
        cases next with
        | markup text => cases hfirst
        | directive d => rfl
    | cons d cs =>
      rw [Text.contains_cons, Bool.or_eq_false_iff] at hopener
      rw [ih (List.cons_ne_nil _ _) hopener.2]
      rfl

end Piece

namespace Item

/-! ### Items as they are found -/

variable {item : Item} {items : List Item}

theorem closing_not_mem_options (ref : ImageRef) (position : Position) :
    ')' ∉ (options ref position).toList := by
  have hsize : ∀ key : String, key = "width" ∨ key = "height" → ∀ size,
      ')' ∉ (sizeOption key size).toList := by
    intro key hkey size
    have hname : ')' ∉ key.toList := by rcases hkey with rfl | rfl <;> decide
    cases size with
    | none => simp [sizeOption]
    | some n =>
      have hdigits : ')' ∉ Number.natDigits n := Number.natDigits_ne (by decide)
      simp [sizeOption, hname, hdigits]
  have hplace : ')' ∉ position.name.toList := by
    obtain ⟨vertical, horizontal⟩ := position
    cases vertical <;> cases horizontal <;> decide
  rw [options, String.toList_append, String.toList_append, List.mem_append, List.mem_append, not_or,
    not_or]
  exact ⟨⟨hplace, hsize _ (.inl rfl) _⟩, hsize _ (.inr rfl) _⟩

theorem text_toList (item : Item) : item.text.toList = item.piece.source := by
  cases item with
  | markup text => rfl
  | image ref position =>
    have hmark : Directive.mark = "[image:".toList := rfl
    simp [text, piece, Piece.source, hmark]

theorem isMarkup_piece (item : Item) : item.piece.isMarkup = item.isMarkup := by
  cases item <;> rfl

/-- An image that can be written is written as a directive. -/
theorem Documented.written {ref : ImageRef} {position : Position}
    (h : (Item.image ref position).Documented) :
    Directive.Written ⟨ref.file.toList, (options ref position).toList,
      Directive.mark ++ ref.file.toList ++ '(' :: (options ref position).toList ++ [')', ']']⟩ := by
  cases h with
  | image _ hne htrimmed hname =>
    have htrim : Text.trimChars ref.file.toList = ref.file.toList := by
      rw [← String.toList_inj, Text.trim, String.toList_ofList] at htrimmed
      exact htrimmed
    have hfile : (Text.trimChars ref.file.toList).isEmpty = false := by
      rw [htrim]
      simpa using hne
    have hends : ∀ c ∈ ref.file.toList, Directive.endsName c = false := by
      intro c hc
      obtain ⟨hopen, hclose, hbracket⟩ := hname c hc
      simp [Directive.endsName, hopen, hclose, hbracket]
    have hoptions : ∀ more,
        Text.cut? [')', ']'] ((options ref position).toList ++ [')', ']'] ++ more) =
          some ((options ref position).toList, more) := by
      intro more
      have hapart : Text.Apart [')', ']'] (options ref position).toList :=
        Text.apart_of_first (closing_not_mem_options ref position)
      rw [List.append_assoc]
      exact hapart.cut?_eq (List.cons_ne_nil _ _) more
    have hwritten := Directive.Written.withOptions hends hfile hoptions
    rwa [htrim] at hwritten

/-- What is not markup begins with a character that an opener holds only in front. -/
theorem head_not_mem_mark (h : ∀ next ∈ items.head?, next.isMarkup = false) :
    ∀ c ∈ (items.flatMap fun item => item.text.toList).head?, c ∉ Directive.mark.tail := by
  cases items with
  | nil => exact fun _ hc => absurd hc (Option.not_mem_none _)
  | cons next items =>
    cases next with
    | markup text => cases h _ rfl
    | image ref position =>
      have hmark : Directive.mark = '[' :: Directive.mark.tail := by decide
      intro c hc
      rw [List.flatMap_cons, text_toList, piece, Piece.source, hmark] at hc
      obtain rfl := Option.some.inj hc
      decide

end Item

/-- **The pieces of a text are the items that it was put together from.** -/
theorem Piece.ofChars_items {items : List Item} (hitems : ∀ item ∈ items, item.Documented)
    (hparted : items.IsChain fun a b => ¬ (a.isMarkup = true ∧ b.isMarkup = true)) :
    ofChars (items.flatMap fun item => item.text.toList) = items.map Item.piece := by
  induction items with
  | nil => rfl
  | cons item items ih =>
    rw [List.forall_mem_cons] at hitems
    rw [List.isChain_cons] at hparted
    have hrest := ih hitems.2 hparted.2
    rw [List.flatMap_cons, Item.text_toList, List.map_cons, ← hrest]
    cases item with
    | image ref position => exact ofChars_directive_append hitems.1.written _
    | markup text =>
      have hnext : ∀ next ∈ items.head?, next.isMarkup = false := fun next hnext =>
        Bool.eq_false_iff.mpr fun hmarkup => hparted.1 next hnext ⟨rfl, hmarkup⟩
      cases hitems.1 with
      | markup hne hopener =>
        have hchars : text.toList ≠ [] := by simpa using hne
        refine ofChars_markup_append hchars hopener ?_ ?_
        · exact Item.head_not_mem_mark hnext
        · rw [hrest, List.head?_map]
          intro piece hpiece
          obtain ⟨next, hhead, rfl⟩ := Option.map_eq_some_iff.mp hpiece
          rw [Item.isMarkup_piece]
          exact hnext next hhead

namespace Stimulus

open Item (joined place)

/-- Each item adds the segment that it becomes, and an image decides the place anew. -/
theorem foldlM_addPiece {items : List Item} (hitems : ∀ item ∈ items, item.Documented)
    (s : Stimulus) : (items.map Item.piece).foldlM addPiece s =
      .ok ⟨s.segments ++ items.map Item.segment,
        (items.filterMap Item.position?).getLast?.getD s.position, s.ignored⟩ := by
  induction items generalizing s with
  | nil =>
    simp only [List.map_nil, List.append_nil]
    rfl
  | cons item items ih =>
    rw [List.forall_mem_cons] at hitems
    rw [List.map_cons, List.foldlM_cons]
    cases hitems.1 with
    | @markup text =>
      refine (ih hitems.2 _).trans ?_
      simp [Item.segment, Item.position?]
    | @image ref position _ _ _ hwidth hheight =>
      have hadd : addPiece s (Item.image ref position).piece =
          .ok ⟨s.segments ++ [.image ref], position, s.ignored⟩ := by
        have hignored : s.ignored ++ [] = s.ignored := List.append_nil _
        rw [Item.piece, addPiece, Placed.ofDirective_options position _ hwidth hheight]
        exact congrArg (fun ignored => Except.ok (Stimulus.mk _ position ignored)) hignored
      rw [hadd]
      refine (ih hitems.2 _).trans ?_
      simp [Item.segment, Item.position?, List.getLast?_cons]

/-- **Every documented directive parses back.** A stimulus put together from markup that holds no
    opener, of which no two stand side by side, and from images written with their places and
    sizes, is read as just these segments. No token is passed over, and it stands where the last
    image says, or in the middle. -/
theorem read_joined (items : List Item) (hitems : ∀ item ∈ items, item.Documented)
    (hparted : items.IsChain fun a b => ¬ (a.isMarkup = true ∧ b.isMarkup = true)) :
    read (joined items) = .ok ⟨items.map Item.segment, place items, []⟩ := by
  have htext : (joined items).toList = items.flatMap fun item => item.text.toList := by
    rw [joined, String.toList_join, List.flatMap_map]
  rw [read, htext, Piece.ofChars_items hitems hparted, foldlM_addPiece hitems]
  rfl

/-- Markup that ends in half an opener before an image, a file name with an opener and what looks
    like options in it, two images side by side, and the end of a directive behind them. -/
def openerItems : List Item :=
  [.markup "(b)] [image",
    .image ⟨"[image:a, width=1-left.png", some 4294967295, none⟩ ⟨.top, .left⟩,
    .image ⟨"c d.png", some 0, some 20⟩ ⟨.bottom, .center⟩, .markup ", height=x)]["]

theorem read_joined_openerItems :
    joined openerItems = "(b)] [image" ++
        "[image:[image:a, width=1-left.png(top-left, width=4294967295)]" ++
        "[image:c d.png(bottom-center, width=0, height=20)]" ++ ", height=x)][" ∧
      read (joined openerItems) = .ok ⟨[.markup "(b)] [image",
        .image ⟨"[image:a, width=1-left.png", some 4294967295, none⟩,
        .image ⟨"c d.png", some 0, some 20⟩, .markup ", height=x)]["], ⟨.bottom, .center⟩, []⟩ := by
  have hitems : ∀ item ∈ openerItems, item.Documented := by
    simp only [openerItems, List.forall_mem_cons]
    refine ⟨.markup (by decide) (by decide), .image _ (by decide) (by decide) (by simp) ?_ ?_,
      .image _ (by decide) (by decide) (by simp) ?_ ?_, .markup (by decide) (by decide),
      List.forall_mem_nil _⟩
    all_goals decide
  exact ⟨by decide, read_joined openerItems hitems (by decide)⟩

end Stimulus

end TimedTrials
