/-!
# Sets of values

A value is a known integer or unknown.  A set of values is kept as a strictly ascending list with
unknown in front, so that two sets with the same members are equal.
-/

namespace EvmFlow

/-- A known integer, or `none` for a value that is not known. -/
abbrev Value := Option Int

namespace Value

instance (a b : Value) : Decidable (a < b) :=
  inferInstanceAs (Decidable (Option.lt (· < ·) a b))

theorem lt_trans {a b c : Value} (hab : a < b) (hbc : b < c) : a < c := by
  cases a <;> cases b <;> cases c <;> simp_all
  omega

theorem lt_irrefl (a : Value) : ¬ a < a := by
  cases a <;> simp

theorem eq_or_lt_of_not_lt {a b : Value} (h : ¬ a < b) : a = b ∨ b < a := by
  cases a <;> cases b <;> simp_all
  omega

/-- Bitwise conjunction in two's complement. -/
def conjunction : Int → Int → Int
  | .ofNat m, .ofNat n => .ofNat (m &&& n)
  | .ofNat m, .negSucc n => .ofNat (m ^^^ (m &&& n))
  | .negSucc m, .ofNat n => .ofNat (n ^^^ (n &&& m))
  | .negSucc m, .negSucc n => .negSucc (m ||| n)

/-- Bitwise conjunction, unknown as soon as one side is. -/
def and : Value → Value → Value
  | some a, some b => some (conjunction a b)
  | _, _ => none

end Value

/-- A finite set of values. -/
structure ValueSet where
  members : List Value
  ascending : members.Pairwise (· < ·) := by simp
deriving DecidableEq

namespace ValueSet

@[ext] theorem ext_members {s t : ValueSet} (h : s.members = t.members) : s = t := by
  cases s; cases t; simp_all

instance : Membership Value ValueSet := ⟨fun s v => v ∈ s.members⟩

instance (v : Value) (s : ValueSet) : Decidable (v ∈ s) :=
  inferInstanceAs (Decidable (v ∈ s.members))

/-- The set without members. -/
def empty : ValueSet := ⟨[], List.Pairwise.nil⟩

/-- The set with one member. -/
def single (v : Value) : ValueSet := ⟨[v], by simp⟩

/-- Whether a set has no members. -/
def isEmpty (s : ValueSet) : Bool := s.members.isEmpty

/-- The number of members. -/
def size (s : ValueSet) : Nat := s.members.length

/-- Unites one member and what follows it, given the union for what follows, with a list. -/
def uniteCons (a : Value) (uniteRest : List Value → List Value) : List Value → List Value
  | [] => a :: uniteRest []
  | b :: bs =>
    if a < b then a :: uniteRest (b :: bs)
    else if b < a then b :: uniteCons a uniteRest bs
    else a :: uniteRest bs

/-- The ascending union of two ascending lists. -/
def unite : List Value → List Value → List Value
  | [], bs => bs
  | a :: as, bs => uniteCons a (unite as) bs

theorem mem_uniteCons {v a : Value} {rest : List Value} {uniteRest : List Value → List Value}
    (unites : ∀ bs, v ∈ uniteRest bs ↔ v ∈ rest ∨ v ∈ bs) (bs : List Value) :
    v ∈ uniteCons a uniteRest bs ↔ v ∈ a :: rest ∨ v ∈ bs := by
  induction bs with
  | nil => simp [uniteCons, unites]
  | cons b bs ih =>
    rw [uniteCons]
    split
    · simp [unites, or_assoc]
    · split
      · simp only [List.mem_cons, ih]
        grind
      · rename_i not_lt not_gt
        have same : a = b := (Value.eq_or_lt_of_not_lt not_lt).resolve_right not_gt
        subst same
        simp only [List.mem_cons, unites]
        grind

theorem mem_unite {v : Value} (as bs : List Value) : v ∈ unite as bs ↔ v ∈ as ∨ v ∈ bs := by
  induction as generalizing bs with
  | nil => simp [unite]
  | cons a as ih => exact mem_uniteCons (fun bs => ih bs) bs

theorem ascending_uniteCons {a : Value} {rest : List Value} {uniteRest : List Value → List Value}
    (unites : ∀ v bs, v ∈ uniteRest bs ↔ v ∈ rest ∨ v ∈ bs)
    (keeps : ∀ bs : List Value, bs.Pairwise (· < ·) → (uniteRest bs).Pairwise (· < ·))
    (above : ∀ v ∈ rest, a < v) (bs : List Value) (ascending : bs.Pairwise (· < ·)) :
    (uniteCons a uniteRest bs).Pairwise (· < ·) := by
  induction bs with
  | nil =>
    refine List.pairwise_cons.2 ⟨fun v hv => ?_, keeps [] List.Pairwise.nil⟩
    exact above v (by simpa [unites] using hv)
  | cons b bs ih =>
    obtain ⟨b_lt, bs_ascending⟩ := List.pairwise_cons.1 ascending
    rw [uniteCons]
    split
    · rename_i a_lt_b
      refine List.pairwise_cons.2 ⟨fun v hv => ?_, keeps _ ascending⟩
      rcases (unites v _).1 hv with hv | hv
      · exact above v hv
      · rcases List.mem_cons.1 hv with rfl | hv
        · exact a_lt_b
        · exact Value.lt_trans a_lt_b (b_lt v hv)
    · split
      · rename_i b_lt_a
        refine List.pairwise_cons.2 ⟨fun v hv => ?_, ih bs_ascending⟩
        rcases (mem_uniteCons (fun cs => unites v cs) bs).1 hv with hv | hv
        · rcases List.mem_cons.1 hv with rfl | hv
          · exact b_lt_a
          · exact Value.lt_trans b_lt_a (above v hv)
        · exact b_lt v hv
      · rename_i not_lt not_gt
        have same : a = b := (Value.eq_or_lt_of_not_lt not_lt).resolve_right not_gt
        subst same
        refine List.pairwise_cons.2 ⟨fun v hv => ?_, keeps _ bs_ascending⟩
        rcases (unites v _).1 hv with hv | hv
        · exact above v hv
        · exact b_lt v hv

theorem ascending_unite (as bs : List Value) (ha : as.Pairwise (· < ·)) (hb : bs.Pairwise (· < ·)) :
    (unite as bs).Pairwise (· < ·) := by
  induction as generalizing bs with
  | nil => exact hb
  | cons a as ih =>
    obtain ⟨above, as_ascending⟩ := List.pairwise_cons.1 ha
    exact ascending_uniteCons (fun v bs => mem_unite as bs) (fun bs hbs => ih bs as_ascending hbs)
      above bs hb

/-- The members of either set. -/
def union (s t : ValueSet) : ValueSet :=
  ⟨unite s.members t.members, ascending_unite _ _ s.ascending t.ascending⟩

instance : Union ValueSet := ⟨union⟩

theorem mem_union {v : Value} {s t : ValueSet} : v ∈ s ∪ t ↔ v ∈ s ∨ v ∈ t :=
  mem_unite s.members t.members

/-- The set with one more member. -/
def insert (s : ValueSet) (v : Value) : ValueSet := single v ∪ s

/-- The set of the values in a list. -/
def ofList (values : List Value) : ValueSet := values.foldl insert empty

/-- The known members, in ascending order. -/
def known (s : ValueSet) : List Int := s.members.filterMap id

/-- A value as it is recorded when only the tracked values matter.  With nothing to track every value
matters.  Otherwise a value that is not tracked is recorded as unknown, or not at all if unknown is
tracked itself. -/
def recorded (tracked : ValueSet) (v : Value) : ValueSet :=
  if tracked.isEmpty || v ∈ tracked then single v
  else if none ∈ tracked then empty
  else single none

/-- The greatest number of values worth distinguishing: that of the tracked values, or a hundred. -/
def capacity (tracked : ValueSet) : Nat :=
  if tracked.isEmpty then 100 else tracked.size

end ValueSet
end EvmFlow
