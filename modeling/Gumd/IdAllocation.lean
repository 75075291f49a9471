import Gumd.Searches
import Gumd.ReadBack

/-!
# Allocation of ids

The searches for a free uid and a free gid over the whole range of 32-bit ids, whatever the
configured range, the entries and the outcomes of opening the file.
-/

namespace Gumd

open StateWp

/-- What an id loop computes when `taken` says which ids have an entry and each lookup may fail to
open the file. -/
def firstSeen (taken : UInt32 → Bool) (idMax : UInt32) :
    Nat → Stream' Bool → UInt32 → Option (Option UInt32)
  | 0, _, _ => none
  | fuel + 1, read, id =>
      if id ≤ idMax then
        if read.head && taken id then firstSeen taken idMax fuel read.tail (id + 1)
        else some (some id)
      else some none

/-- The search ends, fails exactly if all ids of the range are taken, and finds the smallest id of
the range that is not, which is never the invalid id. -/
structure FindsLeast (taken : UInt32 → Bool) (idMin idMax : UInt32)
    (r : Option (Option UInt32)) : Prop where
  ends : r ≠ none
  fails : r = some none ↔ ∀ id, idMin ≤ id → id ≤ idMax → taken id = true
  inside : ∀ id, r = some (some id) → idMin ≤ id ∧ id ≤ idMax
  free : ∀ id, r = some (some id) → taken id = false
  least : ∀ id, r = some (some id) → ∀ other, idMin ≤ other → other < id → taken other = true
  valid : ∀ id, r = some (some id) → id ≠ gumUserInvalidUid

/-- The file can be opened at every lookup of a taken id that the search comes to, and the range
does not end with the invalid id unless a smaller id is free. -/
structure Searchable (taken : UInt32 → Bool) (read : Stream' Bool) (idMin idMax : UInt32) :
    Prop where
  opens : ∀ id, idMin ≤ id → id ≤ idMax →
    (∀ other, idMin ≤ other → other ≤ id → taken other = true) →
    read.get (id.toNat - idMin.toNat) = true
  spare : idMax ≠ gumUserInvalidUid ∨
    ∃ id, idMin ≤ id ∧ id < gumUserInvalidUid ∧ taken id = false

/-! ## The loop -/

section Loop

variable {taken : UInt32 → Bool} {idMax id start : UInt32} {fuel : Nat} {read : Stream' Bool}

theorem wp_findFreeLoop_seen {ε : Type} (found : UInt32 → Files → Option ε) (idMax : UInt32)
    (fuel : Nat) (start : UInt32) (w : World) :
    wp (findFreeLoop (fun id => gumFileLookup openFile (found id)) idMax fuel start) (fun r _ =>
      r = firstSeen (fun id => (found id w.files).isSome) idMax fuel w.faults.read start) w := by
  induction fuel generalizing start w with
  | zero => rfl
  | succ fuel ih =>
    rw [findFreeLoop, firstSeen, wp_ite]
    constructor
    · intro inside
      rw [if_pos inside, wp_bind, wp_gumFileLookup_openFile, wp_ite]
      cases opened : w.faults.read.head with
      | false =>
        constructor
        · intro unseen
          rfl
        · intro seen
          exact absurd rfl seen
      | true =>
        rw [if_pos rfl]
        constructor
        · intro none
          have free : (found start w.files).isSome = false := by simpa using none
          rw [free]
          rfl
        · intro some
          have used : (found start w.files).isSome = true := by
            simpa [Option.isSome_iff_ne_none] using some
          rw [used]
          exact ih (start + 1) _
    · intro outside
      rw [if_neg outside]
      rfl

/-- A step of the loop over a taken id. -/
theorem firstSeen_taken (inside : start ≤ idMax) (opened : read.head = true)
    (used : taken start = true) : firstSeen taken idMax (fuel + 1) read start =
      firstSeen taken idMax fuel read.tail (start + 1) := by
  rw [firstSeen, if_pos inside, opened, used]
  rfl

/-- The id after one that another id is greater than. -/
theorem toNat_next (below : start < id) : (start + 1).toNat = start.toNat + 1 :=
  toNat_succ (UInt32.ne_of_lt (UInt32.lt_of_lt_of_le below (le_last id)))

/-- The ids from the next one on, and the place of their lookups among the ones to come. -/
theorem after_next (read : Stream' Bool) (next : (start + 1).toNat = start.toNat + 1) (later : start + 1 ≤ id) :
    start ≤ id ∧ read.tail.get (id.toNat - (start + 1).toNat) =
      read.get (id.toNat - start.toNat) := by
  rw [UInt32.le_iff_toNat_le] at later
  constructor
  · rw [UInt32.le_iff_toNat_le]
    omega
  · have shift : id.toNat - start.toNat = id.toNat - (start + 1).toNat + 1 := by omega
    rw [shift]
    rfl

/-- The loop reaches a free id after the taken ones before it. -/
theorem firstSeen_free (enough : id.toNat < start.toNat + fuel) (above : start ≤ id)
    (inside : id ≤ idMax) (free : taken id = false)
    (used : ∀ other, start ≤ other → other < id → taken other = true)
    (opens : ∀ other, start ≤ other → other < id →
      read.get (other.toNat - start.toNat) = true) :
    firstSeen taken idMax fuel read start = some (some id) := by
  induction fuel generalizing start read with
  | zero =>
    rw [UInt32.le_iff_toNat_le] at above
    omega
  | succ fuel ih =>
    by_cases same : start = id
    · subst same
      rw [firstSeen, if_pos inside, free, Bool.and_false, if_neg Bool.false_ne_true]
    · have below : start < id := UInt32.lt_of_le_of_ne above same
      have next := toNat_next below
      have opened := opens start (UInt32.le_refl _) below
      rw [Nat.sub_self] at opened
      rw [firstSeen_taken (UInt32.le_trans above inside) opened
        (used start (UInt32.le_refl _) below)]
      rw [UInt32.lt_iff_toNat_lt] at below
      apply ih
      · omega
      · rw [UInt32.le_iff_toNat_le]
        omega
      · intro other later
        exact used other (after_next read next later).1
      · intro other later before
        obtain ⟨from_start, place⟩ := after_next read next later
        rw [place]
        exact opens other from_start before

/-- The loop fails past a range of taken ids that does not end with the last id. -/
theorem firstSeen_none (enough : idMax.toNat + 1 < start.toNat + fuel)
    (reached : start.toNat ≤ idMax.toNat + 1) (last : idMax ≠ 0xffffffff)
    (used : ∀ other, start ≤ other → other ≤ idMax → taken other = true)
    (opens : ∀ other, start ≤ other → other ≤ idMax →
      read.get (other.toNat - start.toNat) = true) :
    firstSeen taken idMax fuel read start = some none := by
  induction fuel generalizing start read with
  | zero => omega
  | succ fuel ih =>
    by_cases inside : start ≤ idMax
    · have next := toNat_next (UInt32.lt_of_le_of_lt inside
        (UInt32.lt_of_le_of_ne (le_last idMax) last))
      have opened := opens start (UInt32.le_refl _) inside
      rw [Nat.sub_self] at opened
      rw [firstSeen_taken inside opened (used start (UInt32.le_refl _) inside)]
      rw [UInt32.le_iff_toNat_le] at inside
      apply ih
      · omega
      · omega
      · intro other later
        exact used other (after_next read next later).1
      · intro other later before
        obtain ⟨from_start, place⟩ := after_next read next later
        rw [place]
        exact opens other from_start before
    · rw [firstSeen, if_neg inside]

/-- A lookup that cannot open the file makes the loop end with a taken id. -/
theorem firstSeen_unread (enough : id.toNat < start.toNat + fuel) (above : start ≤ id)
    (inside : id ≤ idMax) (used : ∀ other, start ≤ other → other ≤ id → taken other = true)
    (fails : read.get (id.toNat - start.toNat) = false) :
    ∃ found, firstSeen taken idMax fuel read start = some (some found) ∧ taken found = true := by
  induction fuel generalizing start read with
  | zero =>
    rw [UInt32.le_iff_toNat_le] at above
    omega
  | succ fuel ih =>
    have here := used start (UInt32.le_refl _) above
    cases opened : read.head with
    | false =>
      refine ⟨start, ?_, here⟩
      rw [firstSeen, if_pos (UInt32.le_trans above inside), opened, Bool.false_and,
        if_neg Bool.false_ne_true]
    | true =>
      have other : start ≠ id := by
        intro same
        subst same
        rw [Nat.sub_self] at fails
        exact Bool.false_ne_true (fails.symm.trans opened)
      have below : start < id := UInt32.lt_of_le_of_ne above other
      have next := toNat_next below
      rw [firstSeen_taken (UInt32.le_trans above inside) opened here]
      rw [UInt32.lt_iff_toNat_lt] at below
      have later : start + 1 ≤ id := by
        rw [UInt32.le_iff_toNat_le]
        omega
      apply ih
      · omega
      · exact later
      · intro other later
        exact used other (after_next read next later).1
      · rw [(after_next read next later).2]
        exact fails

/-- No id is past a range that ends with the last one. -/
theorem firstSeen_last : firstSeen taken 0xffffffff fuel read start ≠ some none := by
  induction fuel generalizing start read with
  | zero =>
    intro ended
    cases ended
  | succ fuel ih =>
    rw [firstSeen, if_pos (le_last start)]
    split_ifs
    · exact ih
    · intro ended
      cases ended

end Loop

/-! ## Exactness -/

section Exact

variable {taken : UInt32 → Bool} {idMin idMax : UInt32} {read : Stream' Bool}

/-- The smallest free id of a range that has one. -/
theorem exists_least {id : UInt32} (above : idMin ≤ id) (free : taken id = false) :
    ∃ least, idMin ≤ least ∧ least ≤ id ∧ taken least = false ∧
      ∀ other, idMin ≤ other → other < least → taken other = true := by
  have some : ∃ n, ∃ id : UInt32, id.toNat = n ∧ idMin ≤ id ∧ taken id = false :=
    ⟨id.toNat, id, rfl, above, free⟩
  classical
  obtain ⟨least, same, from_min, free'⟩ := Nat.find_spec some
  refine ⟨least, from_min, ?_, free', fun other later before => ?_⟩
  · rw [UInt32.le_iff_toNat_le, same]
    exact Nat.find_min' some ⟨id, rfl, above, free⟩
  · rw [UInt32.lt_iff_toNat_lt, same] at before
    have notFree := Nat.find_min some before
    cases used : taken other with
    | true => rfl
    | false => exact absurd ⟨other, rfl, later, used⟩ notFree

theorem findsLeast_found {id : UInt32} (above : idMin ≤ id) (inside : id ≤ idMax)
    (free : taken id = false) (valid : id ≠ gumUserInvalidUid)
    (used : ∀ other, idMin ≤ other → other < id → taken other = true) :
    FindsLeast taken idMin idMax (some (some id)) := by
  constructor
  · intro ended
    cases ended
  · constructor
    · intro failed
      cases failed
    · intro all
      rw [all id above inside] at free
      cases free
  all_goals
    intro found same
    obtain rfl := Option.some.inj (Option.some.inj same)
  · exact ⟨above, inside⟩
  · exact free
  · exact used
  · exact valid

theorem findsLeast_none (used : ∀ id, idMin ≤ id → id ≤ idMax → taken id = true) :
    FindsLeast taken idMin idMax (some none) := by
  constructor
  · intro ended
    cases ended
  · exact ⟨fun _ => used, fun _ => rfl⟩
  all_goals
    intro found same
    cases same

/-- A loop over a range is exact exactly if the range can be searched. -/
theorem findsLeast_iff (range : idMin < idMax) :
    FindsLeast taken idMin idMax (firstSeen taken idMax idCount read idMin) ↔
      Searchable taken read idMin idMax := by
  have size := UInt32.toNat_lt idMax
  have count : idCount = 4294967296 := rfl
  constructor
  · intro exact
    have opens : ∀ id, idMin ≤ id → id ≤ idMax →
        (∀ other, idMin ≤ other → other ≤ id → taken other = true) →
        read.get (id.toNat - idMin.toNat) = true := by
      intro id above inside used
      cases opened : read.get (id.toNat - idMin.toNat) with
      | true => rfl
      | false =>
        have bound := UInt32.toNat_lt id
        have enough : id.toNat < idMin.toNat + idCount := by
          unfold idCount
          omega
        obtain ⟨found, ended, held⟩ := firstSeen_unread enough above inside used opened
        rw [exact.free found ended] at held
        cases held
    refine ⟨opens, ?_⟩
    by_cases last : idMax = gumUserInvalidUid
    · right
      by_contra none
      have used : ∀ id, idMin ≤ id → id < gumUserInvalidUid → taken id = true := by
        intro id above below
        cases held : taken id with
        | true => rfl
        | false => exact absurd ⟨id, above, below, held⟩ none
      subst last
      have bound : gumUserInvalidUid.toNat = 4294967295 := rfl
      cases held : taken gumUserInvalidUid with
      | true =>
        -- every id is taken, and the loop has no end
        refine firstSeen_last (exact.fails.mpr fun id above inside => ?_)
        by_cases same : id = gumUserInvalidUid
        · exact same ▸ held
        · exact used id above (UInt32.lt_of_le_of_ne inside same)
      | false =>
        have enough : gumUserInvalidUid.toNat < idMin.toNat + idCount := by
          unfold idCount
          omega
        have ended := firstSeen_free enough (UInt32.le_of_lt range)
          (UInt32.le_refl _) held used fun other above below =>
            opens other above (UInt32.le_of_lt below) fun id from_min before =>
              used id from_min (UInt32.lt_of_le_of_lt before below)
        exact exact.valid _ ended rfl
    · exact Or.inl last
  · intro searchable
    by_cases spare : ∃ id, idMin ≤ id ∧ id ≤ idMax ∧ taken id = false
    · obtain ⟨id, above, inside, free⟩ := spare
      obtain ⟨least, from_min, before, free, used⟩ := exists_least above free
      replace inside := UInt32.le_trans before inside
      have bound := UInt32.toNat_lt least
      rw [firstSeen_free (by omega) from_min inside free used fun other above below =>
        searchable.opens other above (UInt32.le_of_lt (UInt32.lt_of_lt_of_le below inside))
          fun id from_min before => used id from_min (UInt32.lt_of_le_of_lt before below)]
      apply findsLeast_found from_min inside free _ used
      intro same
      subst same
      rcases searchable.spare with last | ⟨other, above, below, free⟩
      · exact last (UInt32.le_antisymm (le_last idMax) inside)
      · rw [used other above below] at free
        cases free
    · have used : ∀ id, idMin ≤ id → id ≤ idMax → taken id = true := by
        intro id above inside
        cases held : taken id with
        | true => rfl
        | false => exact absurd ⟨id, above, inside, held⟩ spare
      have last : idMax ≠ gumUserInvalidUid := by
        intro last
        rcases searchable.spare with other | ⟨other, above, below, free⟩
        · exact other last
        · exact spare ⟨other, above, last ▸ UInt32.le_of_lt below, free⟩
      have notLast : idMax.toNat ≠ 4294967295 := fun same => last (UInt32.toNat_inj.mp same)
      rw [UInt32.lt_iff_toNat_lt] at range
      rw [firstSeen_none (by omega) (by omega) last used fun other above inside =>
        searchable.opens other above inside fun id from_min before =>
          used id from_min (UInt32.le_trans before inside)]
      exact findsLeast_none used

end Exact

/-! ## The two searches -/

/-- A range that is used is not empty. -/
theorem lt_of_range {low high idMin idMax : UInt32}
    (range : (if low < high then some (low, high) else none) = some (idMin, idMax)) :
    idMin < idMax := by
  split_ifs at range with below
  cases range
  exact below

/-- Both searches are exact exactly if their range can be searched. -/
theorem findFree_findsLeast_iff (config : GumConfig) (s : St GumdDaemonUser)
    (t : St GumdDaemonGroup) (idMin idMax : UInt32) :
    (GumdDaemonUser.getDefaultUidRange config s.self.usertype = some (idMin, idMax) →
      (wp (GumdDaemonUser.findFreeUid config)
          (fun r _ => FindsLeast (fun uid => (s.world.files.getpwuid uid).isSome) idMin idMax r) s ↔
        Searchable (fun uid => (s.world.files.getpwuid uid).isSome) s.world.faults.read idMin
          idMax)) ∧
    (getDefaultGidRange config t.self = some (idMin, idMax) →
      (wp (findFreeGid config gumGroupInvalidGid)
          (fun r _ => FindsLeast (fun gid => (t.world.files.getgrgid gid).isSome) idMin idMax r) t ↔
        Searchable (fun gid => (t.world.files.getgrgid gid).isSome) t.world.faults.read idMin
          idMax)) := by
  constructor
  · intro range
    have bounds : idMin < idMax := by
      unfold GumdDaemonUser.getDefaultUidRange at range
      exact lt_of_range range
    have search := wp_findFreeLoop_seen (fun uid => (·.getpwuid uid)) idMax idCount idMin s.world
    rw [GumdDaemonUser.findFreeUid, wp_bind, wp_getSelf, range, ← findsLeast_iff bounds]
    exact wp_value search _
  · intro range
    have bounds : idMin < idMax := by
      unfold getDefaultGidRange at range
      exact lt_of_range range
    have search := wp_findFreeLoop_seen (fun gid => (·.getgrgid gid)) idMax idCount idMin t.world
    rw [findFreeGid, if_neg (not_not_intro rfl), wp_bind, wp_getSelf, range,
      ← findsLeast_iff bounds]
    exact wp_value search _

namespace Sample

/-- The uid before the last one is taken, and the search hands out the invalid uid. -/
theorem findFreeUid_not_findsLeast :
    GumdDaemonUser.getDefaultUidRange lastEnv.config lastAddition.self.usertype =
        some (0xfffffffe, 0xffffffff) ∧
      ¬wp (GumdDaemonUser.findFreeUid lastEnv.config) (fun r _ => FindsLeast (fun uid =>
          (lastAddition.world.files.getpwuid uid).isSome) 0xfffffffe 0xffffffff r)
        lastAddition := by
  constructor
  · decide +kernel
  · intro exact
    have found : ((GumdDaemonUser.findFreeUid lastEnv.config).run lastAddition).1 =
        some (some gumUserInvalidUid) := by decide +kernel
    exact exact.valid _ found rfl

/-- The group object of an addition. -/
def groupAddition : St GumdDaemonGroup := ⟨gumdDaemonGroupNew, addition.world⟩

theorem findFree_findsLeast_iff_bob :
    wp (GumdDaemonUser.findFreeUid env.config)
        (fun r _ => FindsLeast (fun uid => (files.getpwuid uid).isSome) 1000 2000 r) addition ∧
      wp (findFreeGid env.config gumGroupInvalidGid)
        (fun r _ => FindsLeast (fun gid => (files.getgrgid gid).isSome) 1000 2000 r)
        groupAddition := by
  have searchable : ∀ taken, Searchable taken (Stream'.const true) 1000 2000 := by
    intro taken
    constructor
    · intro id above inside used
      rfl
    · left
      decide
  obtain ⟨uids, gids⟩ := findFree_findsLeast_iff env.config addition groupAddition 1000 2000
  constructor
  · exact (uids (by decide +kernel)).mpr (searchable _)
  · exact (gids (by decide +kernel)).mpr (searchable _)

end Sample

end Gumd
