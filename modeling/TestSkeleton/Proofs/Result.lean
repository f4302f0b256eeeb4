set_option autoImplicit false

/-! # Computations that can fail

A computation in several steps yields a value just if each step yields one, and a row of steps that
fail in one way only fails in that way. What a search through a list comes to is told by what the
test yields for its members, and what is found in a table is one of its entries.
-/

namespace TestSkeleton

variable {ε α β : Type}

/-- A computation in two steps yields a value just if both steps do. -/
theorem bind_eq_ok_iff {x : Except ε α} {f : α → Except ε β} {b : β} :
    x >>= f = .ok b ↔ ∃ a, x = .ok a ∧ f a = .ok b := by
  cases x <;> simp [Bind.bind, Except.bind]

/-- If the second of two steps always yields a value, the computation fails just as the first one
does. -/
theorem bind_eq_error_iff {x : Except ε α} {f : α → Except ε β} {e : ε}
    (hf : ∀ a, ∃ b, f a = .ok b) : x >>= f = .error e ↔ x = .error e := by
  cases x with
  | error e' =>
      constructor <;>
      · rintro ⟨⟩
        rfl
  | ok a =>
      obtain ⟨b, hb⟩ := hf a
      refine iff_of_false (fun h => ?_) nofun
      rw [show Except.ok a >>= f = f a from rfl, hb] at h
      cases h

theorem exists_of_isOk {x : Except ε α} (h : x.isOk = true) : ∃ a, x = .ok a := by
  cases x with
  | ok a => exact ⟨a, rfl⟩
  | error e => cases h

theorem map_eq_ok_iff {x : Except ε α} {g : α → β} {b : β} :
    x.map g = .ok b ↔ ∃ a, x = .ok a ∧ g a = b := by
  cases x <;> simp [Except.map]

theorem map_eq_error_iff {x : Except ε α} {g : α → β} {e : ε} :
    x.map g = .error e ↔ x = .error e := by
  cases x <;> simp [Except.map]

theorem mapError_eq_ok_iff {ε' : Type} {x : Except ε α} {g : ε → ε'} {a : α} :
    x.mapError g = .ok a ↔ x = .ok a := by
  cases x with
  | ok b =>
      show (Except.ok b : Except ε' α) = .ok a ↔ _
      rw [Except.ok.injEq, Except.ok.injEq]
  | error e => exact ⟨nofun, nofun⟩

theorem mapError_eq_error_iff {ε' : Type} {x : Except ε α} {g : ε → ε'} {e : ε'} :
    x.mapError g = .error e ↔ ∃ e', x = .error e' ∧ g e' = e := by
  cases x with
  | ok a =>
      constructor
      · nofun
      · rintro ⟨_, h, -⟩
        cases h
  | error e' =>
      constructor
      · intro h
        exact ⟨e', rfl, Except.error.inj h⟩
      · rintro ⟨_, h, rfl⟩
        cases h
        rfl

/-- What is made of the value of a computation depends on what is made of that of its last step. -/
theorem map_bind_congr {γ : Type} {x : Except ε α} {f f' : α → Except ε β} {g : β → γ}
    (h : ∀ a, (f a).map g = (f' a).map g) : (x >>= f).map g = (x >>= f').map g := by
  cases x with
  | ok a => exact h a
  | error e => rfl

/-- If a step fails in one way only, so does a row of them, as soon as one of them fails. -/
theorem mapM_eq_error_iff {g : α → Except ε β} {as : List α} {e e' : ε}
    (h : ∀ a ∈ as, ∀ e', g a = .error e' → e' = e) :
    as.mapM g = .error e' ↔ e' = e ∧ ∃ a ∈ as, g a = .error e := by
  induction as with
  | nil => exact iff_of_false nofun fun ⟨_, _, ha, _⟩ => nomatch ha
  | cons a as ih =>
      obtain ⟨ha, has⟩ := List.forall_mem_cons.mp h
      simp only [List.mapM_cons, List.mem_cons, exists_eq_or_imp]
      cases hga : g a with
      | error e₁ =>
          obtain rfl := ha e₁ hga
          exact ⟨fun heq => ⟨(Except.error.inj heq).symm, .inl rfl⟩, fun heq => by rw [heq.1]; rfl⟩
      | ok b =>
          have hrest : (Except.ok b >>= fun b => as.mapM g >>= fun bs => pure (b :: bs))
              = .error e' ↔ as.mapM g = .error e' :=
            bind_eq_error_iff (x := as.mapM g) fun bs => ⟨b :: bs, rfl⟩
          rw [hrest, ih has]
          simp

/-- A row of steps that each yield a value yields as many of them. -/
theorem exists_mapM_eq_ok {g : α → Except ε β} {as : List α} (h : ∀ a ∈ as, ∃ b, g a = .ok b) :
    ∃ bs, as.mapM g = .ok bs ∧ bs.length = as.length := by
  induction as with
  | nil => exact ⟨[], rfl, rfl⟩
  | cons a as ih =>
      obtain ⟨⟨b, hb⟩, has⟩ := List.forall_mem_cons.mp h
      obtain ⟨bs, hbs, hlength⟩ := ih has
      rw [List.mapM_cons, hb, hbs]
      exact ⟨b :: bs, rfl, congrArg Nat.succ hlength⟩

section Search

variable {test : α → Except ε Bool} {vs kept : List α}

theorem filterAuxM_eq_ok_nil_iff :
    vs.filterAuxM test kept = .ok [] ↔ kept = [] ∧ ∀ v ∈ vs, test v = .ok false := by
  induction vs generalizing kept with
  | nil => simp [List.filterAuxM, pure, Except.pure]
  | cons v vs ih =>
      rw [List.filterAuxM, bind_eq_ok_iff]
      constructor
      · rintro ⟨b, hb, h⟩
        cases b <;> simp_all
      · rintro ⟨hkept, h⟩
        exact ⟨false, h v List.mem_cons_self,
          ih.mpr ⟨hkept, fun w hw => h w (List.mem_cons_of_mem v hw)⟩⟩

/-- Nothing is found in a list just if the test fails for all of its members. -/
theorem filterM_eq_ok_nil_iff :
    vs.filterM test = .ok [] ↔ ∀ v ∈ vs, test v = .ok false := by
  rw [List.filterM, bind_eq_ok_iff]
  constructor
  · rintro ⟨found, hfound, h⟩
    obtain rfl : found = [] := by simpa using Except.ok.inj h
    exact (filterAuxM_eq_ok_nil_iff.mp hfound).2
  · exact fun h => ⟨[], filterAuxM_eq_ok_nil_iff.mpr ⟨rfl, h⟩, rfl⟩

theorem allM_eq_ok_true_iff : vs.allM test = .ok true ↔ ∀ v ∈ vs, test v = .ok true := by
  induction vs with
  | nil => simp [List.allM, pure, Except.pure]
  | cons v vs ih =>
      rw [List.allM, bind_eq_ok_iff, List.forall_mem_cons, ← ih]
      constructor
      · rintro ⟨holds, hholds, h⟩
        cases holds with
        | false => cases h
        | true => exact ⟨hholds, h⟩
      · exact fun h => ⟨true, h⟩

/-- A search in which no test fails to say what it finds comes to what it finds. -/
theorem anyM_of_ok {holds : α → Bool} (h : ∀ v ∈ vs, test v = .ok (holds v)) :
    vs.anyM test = .ok (vs.any holds) := by
  induction vs with
  | nil => rfl
  | cons v vs ih =>
      obtain ⟨hv, hvs⟩ := List.forall_mem_cons.mp h
      rw [List.anyM, hv, List.any_cons]
      cases holds v with
      | true => rfl
      | false => exact ih hvs

end Search

/-- What a table has for a key is one of its entries. -/
theorem mem_of_lookup_eq_some [BEq α] [LawfulBEq α] {l : List (α × β)} {a : α} {b : β}
    (h : l.lookup a = some b) : (a, b) ∈ l := by
  obtain ⟨before, after, rfl, -⟩ := List.lookup_eq_some_iff.mp h
  exact List.mem_append_right _ List.mem_cons_self

/-- A table with one entry at most for each key has for a key what stands there. -/
theorem lookup_eq_some_iff_mem [BEq α] [LawfulBEq α] {l : List (α × β)} {a : α} {b : β}
    (hl : (l.map Prod.fst).Nodup) : l.lookup a = some b ↔ (a, b) ∈ l := by
  refine ⟨mem_of_lookup_eq_some, fun hmem => ?_⟩
  obtain ⟨before, after, rfl⟩ := List.append_of_mem hmem
  rw [List.map_append, List.map_cons, List.nodup_append] at hl
  refine List.lookup_eq_some_iff.mpr ⟨before, after, rfl, fun p hp => ?_⟩
  exact bne_iff_ne.mpr (hl.2.2 p.1 (List.mem_map_of_mem hp) a List.mem_cons_self).symm

end TestSkeleton
