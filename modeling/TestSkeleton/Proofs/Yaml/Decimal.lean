import TestSkeleton.Proofs.Text.Word
import TestSkeleton.Proofs.Yaml.Integer

set_option autoImplicit false

/-! # Decimals of documents

A decimal has a point, or is one of the words for infinity and for no number. In base sixty only
its last part has a point (`FloatForm`). A text in one of these forms is read unless it has so many
parts that the weight of the first is beyond all decimals (`readFloat_eq_error_iff`).
-/

namespace TestSkeleton.Yaml

open Text

variable {c d : Char} {t ds : Text} {f : Fault}

/-! ## Decimals -/

theorem toLower_of_lt (h : c.toNat < 65) : c.toLower = c := by
  refine dif_neg fun hupper => ?_
  have hle : 65 ≤ c.toNat := UInt32.le_iff_toNat_le.mp hupper.1
  omega

theorem toLower_of_isDigitOrScore (h : Tag.isDigitOrScore c = true) : c.toLower = c := by
  rcases Bool.or_eq_true .. |>.mp h with hdigit | hscore
  · have := Number.isAsciiDigit_iff.mp hdigit
    exact toLower_of_lt (by omega)
  · obtain rfl : c = '_' := by simpa using hscore
    rfl

theorem map_toLower_eq_self (h : ∀ c ∈ t, c.toLower = c) : t.map Char.toLower = t :=
  (List.map_congr_left h).trans (List.map_id t)

theorem isAsciiDigit_of_mem_unscored (h : ∀ c ∈ t, Tag.isDigitOrScore c = true) :
    ∀ c ∈ unscored t, isAsciiDigit c = true := by
  intro c hc
  obtain ⟨hmem, hne⟩ := mem_unscored.mp hc
  have hdigit := h c hmem
  rw [Tag.isDigitOrScore, Bool.or_eq_true] at hdigit
  exact hdigit.resolve_right (by simpa using hne)

/-- The exponent of a decimal in lower case. -/
theorem isExponent_map_toLower (h : Tag.isExponent t = true) :
    Number.IsExponent (t.map Char.toLower) := by
  unfold Tag.isExponent at h
  split at h
  next => exact .empty
  next m sgn ds =>
    simp only [Bool.and_eq_true, Bool.or_eq_true, beq_iff_eq, Bool.not_eq_true',
      List.isEmpty_eq_false_iff, List.all_eq_true] at h
    obtain ⟨⟨⟨hmark, hsign⟩, hne⟩, hds⟩ := h
    have hlower : ds.map Char.toLower = ds := map_toLower_eq_self fun c hc =>
      toLower_of_isDigitOrScore (by rw [Tag.isDigitOrScore, hds c hc]; rfl)
    have hsign' : sgn.toLower = sgn := by rcases hsign with rfl | rfl <;> rfl
    rw [List.map_cons, List.map_cons, hlower, hsign']
    refine .signed (.inl ?_) hsign hne hds
    rcases hmark with rfl | rfl <;> rfl
  next => cases h

/-- How a decimal stands, and how it does in lower case behind its sign. -/
inductive FloatForm (t : Text) : Prop where
  | word (h : Tag.dropSign (t.map Char.toLower) = ".inf" ∨ Tag.dropSign (t.map Char.toLower) = ".nan")
  | fraction {whole digits e : Text}
    (h : Tag.dropSign (t.map Char.toLower) = whole ++ '.' :: (digits ++ e))
    (hwhole : ∀ c ∈ whole, Tag.isDigitOrScore c = true)
    (hdigits : ∀ c ∈ digits, Tag.isDigitOrScore c = true)
    (hstart : whole.head?.any isAsciiDigit = true ∨ whole = [] ∧ digits.head?.any isAsciiDigit = true)
    (he : Number.IsExponent e)
  /-- In base sixty, where the last part is a fraction. -/
  | sixties {d : Char} {ds : Text} {init : List Text} {last digits : Text}
    (h : Tag.dropSign t = d :: ds) (hd : isAsciiDigit d = true)
    (hsplit : splitOn ':' (d :: ds) = init ++ [last ++ '.' :: digits])
    (hinit : init ≠ []) (hparts : ∀ p ∈ init ++ [last], IsPart p)
    (hdigits : ∀ c ∈ digits, Tag.isDigitOrScore c = true)

theorem dropSign_map_toLower (hd : StartsNumber d.toLower) (h : Tag.dropSign t = d :: ds) :
    Tag.dropSign (t.map Char.toLower) = (d :: ds).map Char.toLower := by
  rcases dropSign_cases t with ht | ht | ht
  · rw [ht, h]
    rfl
  · rw [ht, h]
    rfl
  · rw [ht, h]
    exact dropSign_cons hd.2.1 hd.2.2 _

theorem takeWhile_isDigitOrScore (t : Text) :
    ∀ c ∈ t.takeWhile Tag.isDigitOrScore, Tag.isDigitOrScore c = true := fun _ hc =>
  List.mem_takeWhile_imp hc

/-- The digits of a text and what is behind them, in lower case. -/
theorem map_toLower_digits (t : Text) :
    t.map Char.toLower = t.takeWhile Tag.isDigitOrScore
      ++ (t.dropWhile Tag.isDigitOrScore).map Char.toLower := by
  conv_lhs => rw [← List.takeWhile_append_dropWhile (p := Tag.isDigitOrScore) (l := t)]
  rw [List.map_append, map_toLower_eq_self fun c hc =>
    toLower_of_isDigitOrScore (takeWhile_isDigitOrScore t c hc)]

theorem floatForm_of_word (h : t ∈ ([".nan", ".NaN", ".NAN"] : List Text)
    ∨ Tag.isInfinity (Tag.dropSign t) = true) : FloatForm t := by
  refine .word ?_
  rcases h with h | h
  · right
    simp only [List.mem_cons, List.not_mem_nil, or_false] at h
    rcases h with rfl | rfl | rfl <;> rfl
  · left
    simp only [Tag.isInfinity, List.contains_iff_mem, List.mem_cons, List.not_mem_nil,
      or_false] at h
    have hpoint : StartsNumber ('.' : Char).toLower := ⟨by decide, by decide, by decide⟩
    rcases h with h | h | h <;>
    · rw [dropSign_map_toLower hpoint h]
      rfl

theorem floatForm_of_cut {whole fraction : Text} {parts : List Text}
    (hcut : Tag.dropSign t = whole ++ '.' :: fraction)
    (hsplit : splitOn ':' whole = (d :: ds) :: parts) (hd : isAsciiDigit d = true)
    (hfirst : (d :: ds).all Tag.isDigitOrScore = true)
    (hrest : (if parts.isEmpty = true then Tag.isExponent (fraction.dropWhile Tag.isDigitOrScore)
      else Tag.areSixtieths parts && fraction.all Tag.isDigitOrScore) = true) : FloatForm t := by
  have hjoin := joinWith_splitOn ':' whole
  rw [hsplit] at hjoin
  split at hrest
  next hnil =>
    rw [List.isEmpty_iff.mp hnil, joinWith_singleton] at hjoin
    subst hjoin
    have hall := List.all_eq_true.mp hfirst
    have hlower : d.toLower = d := toLower_of_isDigitOrScore (hall d List.mem_cons_self)
    refine .fraction ?_ hall (takeWhile_isDigitOrScore fraction) (.inl hd)
      (isExponent_map_toLower hrest)
    have hstart : StartsNumber d.toLower := hlower.symm ▸ startsNumber_of_isAsciiDigit hd
    have hmap := dropSign_map_toLower hstart (hcut.trans (List.cons_append ..))
    rw [hmap, ← List.cons_append, List.map_append,
      map_toLower_eq_self fun c hc => toLower_of_isDigitOrScore (hall c hc), List.map_cons,
      map_toLower_digits fraction]
    rfl
  next hne =>
    obtain ⟨hparts, hfraction⟩ := Bool.and_eq_true .. |>.mp hrest
    have hds := (Bool.and_eq_true .. |>.mp (List.all_cons.symm.trans hfirst)).2
    have hall := List.all_eq_true.mp hfraction
    have hcolon : ':' ∉ '.' :: fraction := by
      rw [List.mem_cons, not_or]
      exact ⟨by decide, fun hmem => by cases hall ':' hmem⟩
    -- the last part goes on behind the point
    have hpieces := List.dropLast_append_getLast (List.cons_ne_nil (d :: ds) parts)
    have hinit : ((d :: ds) :: parts).dropLast ≠ [] := by
      rw [List.dropLast_cons_of_ne_nil (digits_of_areSixtieths hparts).1]
      exact List.cons_ne_nil _ _
    have hdigits := isPart_parts hd hds (.inr hparts)
    rw [← hpieces] at hsplit hdigits
    have hwhole : ∃ u, whole = d :: u := by
      obtain ⟨p, ps, rfl⟩ := List.exists_cons_of_ne_nil (digits_of_areSixtieths hparts).1
      rw [joinWith_cons_cons] at hjoin
      exact ⟨_, hjoin.symm⟩
    obtain ⟨u, rfl⟩ := hwhole
    exact .sixties hcut hd (splitOn_append_of_not_mem hsplit hcolon) hinit hdigits hall

theorem floatForm_of_isFloat (h : Tag.isFloat t = true) : FloatForm t := by
  unfold Tag.isFloat at h
  split at h
  next hword =>
    rw [Bool.or_eq_true, List.contains_iff_mem] at hword
    exact floatForm_of_word hword
  next =>
    split at h
    next _ d ds _ =>
      obtain ⟨hd, he⟩ := Bool.and_eq_true .. |>.mp h
      have hdigit : Tag.isDigitOrScore d = true := by rw [Tag.isDigitOrScore, hd]; rfl
      have hlower : Tag.dropSign (('.' :: d :: ds).map Char.toLower)
          = [] ++ '.' :: ((d :: ds.takeWhile Tag.isDigitOrScore)
            ++ (ds.dropWhile Tag.isDigitOrScore).map Char.toLower) := by
        rw [List.map_cons, List.map_cons, toLower_of_isDigitOrScore hdigit, map_toLower_digits ds]
        rfl
      exact .fraction hlower (List.forall_mem_nil _)
        (List.forall_mem_cons.mpr ⟨hdigit, takeWhile_isDigitOrScore ds⟩) (.inr ⟨rfl, hd⟩)
        (isExponent_map_toLower he)
    next =>
      split at h
      next whole fraction hcut =>
        split at h
        next _ d ds parts hsplit =>
          simp only [Bool.and_eq_true] at h
          exact floatForm_of_cut (cut?_eq_some_iff.mp hcut).1 hsplit h.1.1 h.1.2 h.2
        next => cases h
      next => cases h

/-- A word or a decimal without colons is read. -/
theorem readFloat_ne_error {u : Text} (hne : unscored t ≠ [])
    (hu : (signed (t.map Char.toLower)).2 = u) (hcolon : ':' ∉ u)
    (hread : u = ".inf" ∨ u = ".nan" ∨ (Number.float? u).isSome = true) :
    readFloat t ≠ .error f := by
  have hsigned : signed (t.map Char.toLower) = ((signed (t.map Char.toLower)).1, u) := Prod.ext rfl hu
  have hempty : (t.filter (· != '_')).isEmpty = false := List.isEmpty_eq_false_iff.mpr hne
  unfold readFloat
  rw [hempty, if_neg Bool.false_ne_true, hsigned]
  dsimp only
  split
  next => exact nofun
  next hinf =>
    split
    next => exact nofun
    next hnan =>
      rw [if_neg (by simpa using hcolon)]
      rcases hread with rfl | rfl | hsome
      · exact absurd (beq_self_eq_true _) hinf
      · exact absurd (beq_self_eq_true _) hnan
      · obtain ⟨x, hx⟩ := Option.isSome_iff_exists.mp hsome
        rw [hx]
        exact nofun

/-- Reads a decimal without colons. -/
def readDecimal (u : Text) : Except Fault Binary64 :=
  match Number.float? u with
  | some x => .ok x
  | none => .error .notANumber

/-- A decimal with colons is read unless it has too many parts. -/
theorem readFloat_parts_eq_error_iff {u : Text} (hne : unscored t ≠ [])
    (hu : (signed (t.map Char.toLower)).2 = u) (hcolon : ':' ∈ u)
    (hread : ∀ p ∈ splitOn ':' u, (Number.float? p).isSome = true) :
    readFloat t = .error f ↔ f = .powerOverflow ∧ maxSixties < (splitOn ':' u).length := by
  have hsigned : signed (t.map Char.toLower) = ((signed (t.map Char.toLower)).1, u) := Prod.ext rfl hu
  have hempty : (t.filter (· != '_')).isEmpty = false := List.isEmpty_eq_false_iff.mpr hne
  have hinf : (u == ".inf".toList) = false := by
    rw [beq_eq_false_iff_ne]
    rintro rfl
    revert hcolon
    decide
  have hnan : (u == ".nan".toList) = false := by
    rw [beq_eq_false_iff_ne]
    rintro rfl
    revert hcolon
    decide
  unfold readFloat
  rw [hempty, if_neg Bool.false_ne_true, hsigned]
  dsimp only
  rw [hinf, hnan, if_neg Bool.false_ne_true, if_neg Bool.false_ne_true,
    if_pos (List.contains_iff_mem.mpr hcolon)]
  have hparts : ∀ p ∈ splitOn ':' u, ∃ x, readDecimal p = .ok x := by
    intro p hp
    obtain ⟨x, hx⟩ := Option.isSome_iff_exists.mp (hread p hp)
    exact ⟨x, by rw [readDecimal, hx]⟩
  obtain ⟨xs, hxs, hlength⟩ := exists_mapM_eq_ok hparts
  show ((splitOn ':' u).mapM readDecimal >>= _) = _ ↔ _
  rw [hxs, ← hlength]
  show (if maxSixties < xs.length then _ else _) = _ ↔ _
  split
  next hlong =>
    rw [and_iff_left hlong]
    exact ⟨fun h => (Except.error.inj h).symm, fun h => by rw [h]; rfl⟩
  next hshort => exact iff_of_false nofun fun h => hshort h.2

/-! ### The value of a decimal -/

/-- There are no colons in a text that has none in lower case. -/
theorem count_eq_zero_of_not_mem (h : ':' ∉ Tag.dropSign (t.map Char.toLower)) :
    t.count ':' = 0 := by
  have hle : t.count ':' ≤ (t.map Char.toLower).count (':' : Char).toLower :=
    List.count_le_count_map
  have hzero : (t.map Char.toLower).count ':' = 0 := by
    rw [← count_dropSign, List.count_eq_zero_of_not_mem h]
  exact Nat.le_zero.mp (hzero ▸ hle)

/-- A number holds more than underscores. -/
theorem unscored_ne_nil (h : Tag.dropSign (t.map Char.toLower) = d :: ds) (hd : d ≠ '_') :
    unscored t ≠ [] := by
  have hmem : d ∈ t.map Char.toLower := by
    rcases dropSign_cases (t.map Char.toLower) with ht | ht | ht <;>
    · rw [ht, h]
      simp
  obtain ⟨c, hc, rfl⟩ := List.mem_map.mp hmem
  exact List.ne_nil_of_mem (mem_unscored.mpr ⟨hc, fun heq => hd (by rw [heq]; rfl)⟩)

/-- The text in lower case, without sign and underscores. -/
theorem signed_lower {u : Text} (h : Tag.dropSign (t.map Char.toLower) = u)
    (hstart : ∀ c, u.head? = some c → StartsNumber c) (hne : u ≠ []) :
    unscored t ≠ [] ∧ (signed (t.map Char.toLower)).2 = unscored u := by
  obtain ⟨d, ds, rfl⟩ := List.exists_cons_of_ne_nil hne
  have hd := hstart d rfl
  exact ⟨unscored_ne_nil h hd.1, by rw [signed_snd hd h, unscored_cons hd.1]⟩

theorem isAsciiDigit_head {t : Text} (h : t.head?.any isAsciiDigit = true) :
    ∃ d ds, t = d :: ds ∧ isAsciiDigit d = true := by
  obtain ⟨d, hd, hdigit⟩ := (Option.any_eq_true ..).mp h
  obtain ⟨ds, rfl⟩ := List.head?_eq_some_iff.mp hd
  exact ⟨d, ds, rfl, hdigit⟩

theorem isSome_float?_fraction {whole digits e : Text}
    (hwhole : ∀ c ∈ whole, Tag.isDigitOrScore c = true)
    (hdigits : ∀ c ∈ digits, Tag.isDigitOrScore c = true)
    (hne : unscored whole ≠ [] ∨ unscored digits ≠ []) (he : Number.IsExponent e) :
    (Number.float? (unscored (whole ++ '.' :: (digits ++ e)))).isSome = true := by
  have hscore : '_' ∉ e := he.not_mem rfl (by decide)
  rw [unscored_append, unscored_cons (by decide), unscored_append, unscored_of_not_mem hscore]
  exact Number.float?_isSome (isAsciiDigit_of_mem_unscored hwhole)
    (isAsciiDigit_of_mem_unscored hdigits) hne he

theorem startsNumber_point : StartsNumber '.' := ⟨by decide, by decide, by decide⟩

theorem readFloat_word (h : Tag.dropSign (t.map Char.toLower) = ".inf"
    ∨ Tag.dropSign (t.map Char.toLower) = ".nan") :
    t.count ':' = 0 ∧ readFloat t ≠ .error f := by
  refine ⟨count_eq_zero_of_not_mem (by rcases h with h | h <;> rw [h] <;> decide), ?_⟩
  rcases h with h | h
  · obtain ⟨hne, hu⟩ := signed_lower h (by rintro c ⟨⟩; exact startsNumber_point) (by decide)
    exact readFloat_ne_error hne hu (by decide) (.inl rfl)
  · obtain ⟨hne, hu⟩ := signed_lower h (by rintro c ⟨⟩; exact startsNumber_point) (by decide)
    exact readFloat_ne_error hne hu (by decide) (.inr (.inl rfl))

theorem readFloat_fraction {whole digits e : Text}
    (h : Tag.dropSign (t.map Char.toLower) = whole ++ '.' :: (digits ++ e))
    (hwhole : ∀ c ∈ whole, Tag.isDigitOrScore c = true)
    (hdigits : ∀ c ∈ digits, Tag.isDigitOrScore c = true)
    (hstart : whole.head?.any isAsciiDigit = true
      ∨ whole = [] ∧ digits.head?.any isAsciiDigit = true)
    (he : Number.IsExponent e) : t.count ':' = 0 ∧ readFloat t ≠ .error f := by
  have hcolon : ':' ∉ whole ++ '.' :: (digits ++ e) := by
    intro hmem
    rcases List.mem_append.mp hmem with hmem | hmem
    · cases hwhole _ hmem
    · have htail := (List.mem_cons.mp hmem).resolve_left (by decide)
      rcases List.mem_append.mp htail with hmem | hmem
      · cases hdigits _ hmem
      · exact he.not_mem rfl (by decide) hmem
  obtain ⟨hhead, hpart⟩ : (∀ c, (whole ++ '.' :: (digits ++ e)).head? = some c → StartsNumber c)
      ∧ (unscored whole ≠ [] ∨ unscored digits ≠ []) := by
    rcases hstart with hstart | ⟨rfl, hstart⟩
    · obtain ⟨d, ds, rfl, hd⟩ := isAsciiDigit_head hstart
      have hd' := startsNumber_of_isAsciiDigit hd
      refine ⟨by rintro c ⟨⟩; exact hd', .inl ?_⟩
      rw [unscored_cons hd'.1]
      exact List.cons_ne_nil _ _
    · obtain ⟨d, ds, rfl, hd⟩ := isAsciiDigit_head hstart
      refine ⟨by rintro c ⟨⟩; exact startsNumber_point, .inr ?_⟩
      rw [unscored_cons (startsNumber_of_isAsciiDigit hd).1]
      exact List.cons_ne_nil _ _
  obtain ⟨hne, hu⟩ := signed_lower h hhead (by simp)
  refine ⟨count_eq_zero_of_not_mem (h ▸ hcolon), ?_⟩
  refine readFloat_ne_error hne hu (fun hmem => hcolon (mem_unscored.mp hmem).1) (.inr (.inr ?_))
  exact isSome_float?_fraction hwhole hdigits hpart he

/-! Base sixty -/

section Sixties

variable {init : List Text} {last digits : Text}

/-- A number in base sixty has no letters. -/
theorem map_toLower_sixties (h : Tag.dropSign t = d :: ds)
    (hsplit : splitOn ':' (d :: ds) = init ++ [last ++ '.' :: digits])
    (hparts : ∀ p ∈ init ++ [last], IsPart p)
    (hdigits : ∀ c ∈ digits, Tag.isDigitOrScore c = true) : t.map Char.toLower = t := by
  refine map_toLower_eq_self fun c hc => ?_
  rcases mem_dropSign hc with rfl | rfl | hc
  · rfl
  · rfl
  rw [h] at hc
  have hpiece : c = ':' ∨ c ∈ (splitOn ':' (d :: ds)).flatten := eq_or_mem_flatten_splitOn hc
  rcases hpiece with rfl | hc
  · rfl
  rw [hsplit, List.flatten_append, List.mem_append, List.flatten_singleton, List.mem_append,
    List.mem_cons] at hc
  rcases hc with hc | hc | rfl | hc
  · obtain ⟨p, hp, hc⟩ := List.mem_flatten.mp hc
    exact toLower_of_isDigitOrScore ((hparts p (List.mem_append_left _ hp)).1 c hc)
  · exact toLower_of_isDigitOrScore ((hparts last (by simp)).1 c hc)
  · rfl
  · exact toLower_of_isDigitOrScore (hdigits c hc)

theorem isSome_float?_sixties (hparts : ∀ p ∈ init ++ [last], IsPart p)
    (hdigits : ∀ c ∈ digits, Tag.isDigitOrScore c = true) :
    ∀ p ∈ (init ++ [last ++ '.' :: digits]).map unscored,
      (Number.float? p).isSome = true := by
  intro p hp
  obtain ⟨q, hq, rfl⟩ := List.mem_map.mp hp
  rcases List.mem_append.mp hq with hq | hq
  · have hpart := hparts q (List.mem_append_left _ hq)
    exact Number.float?_isSome_of_digits (isAsciiDigit_of_mem_unscored hpart.1) hpart.2
  · obtain rfl := List.mem_singleton.mp hq
    have hlast := hparts last (List.mem_append_right _ (List.mem_singleton_self last))
    have hsome := isSome_float?_fraction (e := []) hlast.1 hdigits (.inl hlast.2) .empty
    rwa [List.append_nil] at hsome

theorem readFloat_sixties (h : Tag.dropSign t = d :: ds) (hd : isAsciiDigit d = true)
    (hsplit : splitOn ':' (d :: ds) = init ++ [last ++ '.' :: digits]) (hinit : init ≠ [])
    (hparts : ∀ p ∈ init ++ [last], IsPart p)
    (hdigits : ∀ c ∈ digits, Tag.isDigitOrScore c = true) :
    readFloat t = .error f ↔ f = .powerOverflow ∧ maxSixties ≤ t.count ':' := by
  have hlower := map_toLower_sixties h hsplit hparts hdigits
  have hstart := startsNumber_of_isAsciiDigit hd
  have hpieces : splitOn ':' (unscored (d :: ds))
      = (init ++ [last ++ '.' :: digits]).map unscored := by
    rw [splitOn_unscored, hsplit]
  have hlength : init.length = t.count ':' := by
    have hcount := length_splitOn ':' (d :: ds)
    rw [hsplit, List.length_append, List.length_singleton, ← h, count_dropSign] at hcount
    omega
  obtain ⟨hne, hu⟩ := signed_lower (hlower.symm ▸ h) (by rintro c ⟨⟩; exact hstart)
    (List.cons_ne_nil _ _)
  refine (readFloat_parts_eq_error_iff hne hu ?_ ?_).trans (and_congr_right fun _ => ?_)
  · rw [← List.count_pos_iff, count_unscored, ← h, count_dropSign, ← hlength]
    exact List.length_pos_iff.mpr hinit
  · rw [hpieces]
    exact isSome_float?_sixties hparts hdigits
  · rw [hpieces, List.length_map, List.length_append, List.length_singleton, hlength]
    exact Nat.lt_succ_iff

end Sixties

/-- **A decimal is read** unless it has so many parts in base sixty that the weight of the first is
beyond all decimals. -/
theorem readFloat_eq_error_iff (h : Tag.isFloat t = true) :
    readFloat t = .error f ↔ f = .powerOverflow ∧ maxSixties ≤ t.count ':' := by
  have hzero : t.count ':' = 0 ∧ readFloat t ≠ .error f →
      (readFloat t = .error f ↔ f = .powerOverflow ∧ maxSixties ≤ t.count ':') := by
    rintro ⟨hcount, hread⟩
    exact iff_of_false hread fun h => absurd h.2 (by rw [hcount]; decide)
  cases floatForm_of_isFloat h with
  | word hword => exact hzero (readFloat_word hword)
  | fraction hform hwhole hdigits hstart he =>
      exact hzero (readFloat_fraction hform hwhole hdigits hstart he)
  | sixties hform hd hsplit hinit hparts hdigits =>
      exact readFloat_sixties hform hd hsplit hinit hparts hdigits

end TestSkeleton.Yaml
