import Mathlib.Data.List.AList
import Mathlib.Data.List.Infix
import Mathlib.Tactic.SplitIfs

/-!
# File trees

A file tree maps places to directories, regular files and symbolic links.  A place is the list of
the names that lead to it, the innermost one first, so that the entries of a directory extend the
place of the directory.  Every entry lies in a directory.

A path is resolved name by name.  The links among the names are followed, that at the end of the
path only on demand, and a path that passes more links than allowed leads nowhere.
-/

namespace FileTree

/-- The name of an entry, and the text of a link. -/
abbrev Name := List UInt8

/-- A place: the names that lead to it, the innermost first. -/
abbrev Place := List Name

def dot : Name := [0x2e]

def dotDot : Name := [0x2e, 0x2e]

/-- The name may be that of an entry. -/
def IsName (n : Name) : Prop := n ≠ [] ∧ n ≠ dot ∧ n ≠ dotDot ∧ 0x2f ∉ n

instance : DecidablePred IsName := fun n =>
  inferInstanceAs (Decidable (n ≠ [] ∧ n ≠ dot ∧ n ≠ dotDot ∧ 0x2f ∉ n))

/-- What an entry is. -/
inductive Kind (C : Type) where
  | dir
  | file (content : C)
  | link (text : Name)
  deriving DecidableEq

instance {C : Type} (k : Option (Kind C)) : Decidable (k = some .dir) :=
  match k with
  | none => .isFalse fun same => by cases same
  | some .dir => .isTrue rfl
  | some (.file _) => .isFalse fun same => by cases same
  | some (.link _) => .isFalse fun same => by cases same

def Kind.isLink {C : Type} : Kind C → Bool
  | .link _ => true
  | _ => false

structure Node (A C : Type) where
  kind : Kind C
  attr : A
  deriving DecidableEq

variable {A C : Type}

/-- The root is a directory, and every other entry has a name and lies in a directory. -/
structure WellFormed (nodes : AList fun _ : Place => Node A C) : Prop where
  root : ∃ a, nodes.lookup [] = some ⟨.dir, a⟩
  inDir : ∀ n p, n :: p ∈ nodes → IsName n ∧ ∃ a, nodes.lookup p = some ⟨.dir, a⟩

namespace WellFormed

variable {nodes : AList fun _ : Place => Node A C} {p : Place}

theorem singleton (a : A) : WellFormed (AList.singleton [] (⟨.dir, a⟩ : Node A C)) := by
  constructor
  · exact ⟨a, AList.lookup_insert ∅⟩
  · intro n p mem
    rw [AList.mem_keys, AList.keys_singleton, List.mem_singleton] at mem
    cases mem

/-- A change that keeps a directory a directory. -/
theorem insert {node : Node A C} (wf : WellFormed nodes)
    (dirs : ∀ a, nodes.lookup p = some ⟨.dir, a⟩ → node.kind = .dir)
    (place : p ∈ nodes ∨ ∃ n q, p = n :: q ∧ IsName n ∧ ∃ a, nodes.lookup q = some ⟨.dir, a⟩) :
    WellFormed (nodes.insert p node) := by
  have kept : ∀ q, (∃ a, nodes.lookup q = some ⟨.dir, a⟩) →
      ∃ a, (nodes.insert p node).lookup q = some ⟨.dir, a⟩ := by
    intro q ⟨a, found⟩
    by_cases same : q = p
    · subst same
      refine ⟨node.attr, ?_⟩
      rw [AList.lookup_insert, ← dirs a found]
    · exact ⟨a, by rw [AList.lookup_insert_ne same, found]⟩
  constructor
  · exact kept [] wf.root
  · intro n q mem
    have old : IsName n ∧ ∃ a, nodes.lookup q = some ⟨.dir, a⟩ := by
      rcases (AList.mem_insert _).mp mem with new | old
      · rcases place with old | ⟨m, r, split, name, dir⟩
        · exact wf.inDir n q (new ▸ old)
        · obtain ⟨rfl, rfl⟩ := List.cons.inj (new.trans split)
          exact ⟨name, dir⟩
      · exact wf.inDir n q old
    exact ⟨old.1, kept q old.2⟩

/-- An entry that holds none may go. -/
theorem erase (wf : WellFormed nodes) (proper : p ≠ []) (empty : ∀ n, n :: p ∉ nodes) :
    WellFormed (nodes.erase p) := by
  have kept : ∀ q, q ≠ p → (nodes.erase p).lookup q = nodes.lookup q :=
    fun q other => AList.lookup_erase_ne other
  constructor
  · rw [kept [] proper.symm]
    exact wf.root
  · intro n q mem
    have old := (AList.mem_erase.mp mem).2
    have other : q ≠ p := by
      intro same
      exact empty n (same ▸ old)
    rw [kept q other]
    exact wf.inDir n q old

end WellFormed

/-- A file tree. -/
structure Tree (A C : Type) where
  nodes : AList fun _ : Place => Node A C
  wf : WellFormed nodes

namespace Tree

def lookup (t : Tree A C) (p : Place) : Option (Node A C) := t.nodes.lookup p

/-- What lies at a place. -/
def kindAt (t : Tree A C) (p : Place) : Option (Kind C) := (t.lookup p).map Node.kind

/-- The names of the entries of a directory. -/
def children (t : Tree A C) (p : Place) : List Name :=
  t.nodes.keys.filterMap fun q =>
    match q with
    | [] => none
    | n :: q => if q = p then some n else none

/-- No entry lies deeper. -/
def depth (t : Tree A C) : Nat := (t.nodes.keys.map List.length).foldr max 0

/-! ## Entries -/

theorem kindAt_eq_some_iff {t : Tree A C} {p : Place} {k : Kind C} :
    t.kindAt p = some k ↔ ∃ a, t.lookup p = some ⟨k, a⟩ := by
  unfold kindAt
  rw [Option.map_eq_some_iff]
  constructor
  · intro ⟨node, found, same⟩
    subst same
    exact ⟨node.attr, found⟩
  · intro ⟨a, found⟩
    exact ⟨_, found, rfl⟩

theorem kindAt_of_lookup {t : Tree A C} {p : Place} {node : Node A C}
    (found : t.lookup p = some node) : t.kindAt p = some node.kind := by
  rw [kindAt, found, Option.map_some]

theorem kindAt_eq_none_iff {t : Tree A C} {p : Place} :
    t.kindAt p = none ↔ t.lookup p = none := Option.map_eq_none_iff

theorem mem_nodes_iff {t : Tree A C} {p : Place} : p ∈ t.nodes ↔ t.kindAt p ≠ none := by
  rw [Ne, kindAt_eq_none_iff]
  unfold lookup
  rw [AList.lookup_eq_none, not_not]

theorem kindAt_root (t : Tree A C) : t.kindAt [] = some .dir := kindAt_eq_some_iff.mpr t.wf.root

/-- What holds an entry is a directory. -/
theorem kindAt_tail {t : Tree A C} {n : Name} {p : Place} (found : t.kindAt (n :: p) ≠ none) :
    t.kindAt p = some .dir :=
  kindAt_eq_some_iff.mpr (t.wf.inDir n p (mem_nodes_iff.mpr found)).2

theorem isName {t : Tree A C} {n : Name} {p : Place} (found : t.kindAt (n :: p) ≠ none) : IsName n :=
  (t.wf.inDir n p (mem_nodes_iff.mpr found)).1

/-- What an entry lies below is a directory. -/
theorem kindAt_suffix {t : Tree A C} {p q : Place} (below : q <:+ p) (found : t.kindAt p ≠ none)
    (proper : q ≠ p) : t.kindAt q = some .dir := by
  induction p with
  | nil => exact absurd (List.suffix_nil.mp below) proper
  | cons n p ih =>
      have dir := kindAt_tail found
      rcases List.suffix_cons_iff.mp below with same | deeper
      · exact absurd same proper
      · by_cases here : q = p
        · rw [here]
          exact dir
        · exact ih deeper (by rw [dir]; simp) here

/-- Nothing lies below a place where nothing lies. -/
theorem kindAt_below_none {t : Tree A C} {p q : Place} (below : q <:+ p) (missing : t.kindAt q = none) :
    t.kindAt p = none := by
  by_contra found
  by_cases same : q = p
  · exact found (same ▸ missing)
  · rw [kindAt_suffix below found same] at missing
    cases missing

theorem mem_children {t : Tree A C} {n : Name} {p : Place} :
    n ∈ t.children p ↔ t.kindAt (n :: p) ≠ none := by
  rw [← mem_nodes_iff, children, List.mem_filterMap]
  constructor
  · intro ⟨q, mem, child⟩
    cases q with
    | nil => cases child
    | cons m q =>
        dsimp only at child
        split_ifs at child with same
        cases child
        subst same
        exact AList.mem_keys.mpr mem
  · intro mem
    exact ⟨n :: p, AList.mem_keys.mp mem, if_pos rfl⟩

theorem length_le_depth {t : Tree A C} {p : Place} (found : t.kindAt p ≠ none) :
    p.length ≤ t.depth := by
  have bound : ∀ (keys : List Place), p ∈ keys → p.length ≤ (keys.map List.length).foldr max 0 := by
    intro keys mem
    induction keys with
    | nil => cases mem
    | cons q keys ih =>
        rw [List.map_cons, List.foldr_cons]
        rcases List.mem_cons.mp mem with same | later
        · rw [same]
          exact Nat.le_max_left _ _
        · exact Nat.le_trans (ih later) (Nat.le_max_right _ _)
  exact bound _ (AList.mem_keys.mp (mem_nodes_iff.mpr found))

/-! ## Changes -/

/-- Change the attributes at a place. -/
def setAttr (t : Tree A C) (p : Place) (f : Node A C → A) : Tree A C :=
  match found : t.nodes.lookup p with
  | none => t
  | some node =>
      { nodes := t.nodes.insert p ⟨node.kind, f node⟩
        wf := t.wf.insert
          (fun _ dir => congrArg Node.kind (Option.some.inj (found.symm.trans dir)))
          (Or.inl (AList.lookup_isSome.mp (Option.isSome_iff_exists.mpr ⟨node, found⟩))) }

/-- Put an entry into a directory, also in the place of a file or link. -/
def attach (t : Tree A C) (p : Place) (node : Node A C) : Option (Tree A C) :=
  match p with
  | [] => none
  | n :: q =>
      if place : IsName n ∧ t.kindAt q = some .dir ∧ t.kindAt (n :: q) ≠ some .dir then
        some
          { nodes := t.nodes.insert (n :: q) node
            wf := t.wf.insert
              (fun a dir => absurd (kindAt_eq_some_iff.mpr ⟨a, dir⟩) place.2.2)
              (Or.inr ⟨n, q, rfl, place.1, kindAt_eq_some_iff.mp place.2.1⟩) }
      else none

/-- Remove an entry, a directory only if it is empty. -/
def remove (t : Tree A C) (p : Place) : Option (Tree A C) :=
  if empty : t.kindAt p ≠ none ∧ p ≠ [] ∧ t.children p = [] then
    some
      { nodes := t.nodes.erase p
        wf := t.wf.erase empty.2.1 fun _ mem =>
          List.not_mem_nil (empty.2.2 ▸ mem_children.mpr (mem_nodes_iff.mp mem)) }
  else none

/-- The tree of an empty root directory. -/
def ofRoot (a : A) : Tree A C where
  nodes := AList.singleton [] ⟨.dir, a⟩
  wf := WellFormed.singleton a

/-- Put entries into a tree, one after the other; those without a directory are left out. -/
def attachAll (t : Tree A C) (entries : List (Place × Node A C)) : Tree A C :=
  entries.foldl (fun t entry => (t.attach entry.1 entry.2).getD t) t

theorem lookup_setAttr (t : Tree A C) (p q : Place) (f : Node A C → A) :
    (t.setAttr p f).lookup q =
      if q = p then (t.lookup p).map fun node => ⟨node.kind, f node⟩ else t.lookup q := by
  unfold setAttr lookup
  split
  · rename_i missing
    rw [missing]
    split_ifs with same
    · rw [same, missing]
      rfl
    · rfl
  · rename_i node found
    dsimp only
    split_ifs with same
    · rw [same, AList.lookup_insert, found]
      rfl
    · rw [AList.lookup_insert_ne same]

theorem lookup_setAttr_self {t : Tree A C} {p : Place} {node : Node A C}
    (found : t.lookup p = some node) (f : Node A C → A) :
    (t.setAttr p f).lookup p = some ⟨node.kind, f node⟩ := by
  rw [lookup_setAttr, if_pos rfl, found]
  rfl

@[simp] theorem kindAt_setAttr (t : Tree A C) (p q : Place) (f : Node A C → A) :
    (t.setAttr p f).kindAt q = t.kindAt q := by
  unfold kindAt
  rw [lookup_setAttr]
  split_ifs with same
  · rw [same, Option.map_map]
    rfl
  · rfl

/-- Where an entry may be put, and what is found afterwards. -/
theorem attach_spec {t t' : Tree A C} {p : Place} {node : Node A C}
    (attached : t.attach p node = some t') :
    ∃ n q, p = n :: q ∧ IsName n ∧ t.kindAt q = some .dir ∧ t.kindAt p ≠ some .dir ∧
      ∀ q, t'.lookup q = if q = p then some node else t.lookup q := by
  unfold attach at attached
  cases p with
  | nil => cases attached
  | cons n q =>
      dsimp only at attached
      split_ifs at attached with place
      cases attached
      refine ⟨n, q, rfl, place.1, place.2.1, place.2.2, ?_⟩
      intro r
      unfold lookup
      split_ifs with same
      · rw [same, AList.lookup_insert]
      · rw [AList.lookup_insert_ne same]

theorem attach_of_dir {t : Tree A C} {n : Name} {q : Place} (node : Node A C) (name : IsName n)
    (dir : t.kindAt q = some .dir) (free : t.kindAt (n :: q) ≠ some .dir) :
    ∃ t', t.attach (n :: q) node = some t' := by
  unfold attach
  dsimp only
  rw [dif_pos ⟨name, dir, free⟩]
  exact ⟨_, rfl⟩

/-- What may be removed, and what is found afterwards. -/
theorem remove_spec {t t' : Tree A C} {p : Place} (removed : t.remove p = some t') :
    t.kindAt p ≠ none ∧ t.children p = [] ∧
      ∀ q, t'.lookup q = if q = p then none else t.lookup q := by
  unfold remove at removed
  split_ifs at removed with empty
  cases removed
  refine ⟨empty.1, empty.2.2, ?_⟩
  intro q
  unfold lookup
  split_ifs with same
  · rw [same, AList.lookup_erase]
  · rw [AList.lookup_erase_ne same]

/-! ## Paths -/

/-- The names of a path that is written with slashes. -/
def components (text : Name) : List Name := (text.splitOn 0x2f).filter (· ≠ [])

/-- Resolve names from a directory.  At a link the rest of the way is left to `jump`. -/
def walkNames (t : Tree A C) (follow : Bool) (jump : Place → List Name → Option Place) :
    Place → List Name → Option Place
  | p, [] => some p
  | p, n :: rest =>
      if n = dot then t.walkNames follow jump p rest
      else if n = dotDot then t.walkNames follow jump p.tail rest
      else
        match t.kindAt (n :: p) with
        | none => none
        | some .dir => t.walkNames follow jump (n :: p) rest
        | some (.file _) => if rest = [] then some (n :: p) else none
        | some (.link text) =>
            if rest = [] ∧ follow = false then some (n :: p)
            else jump (if text.head? = some 0x2f then [] else p) (components text ++ rest)

/-- Resolve names from a directory, through this many links at most. -/
def walk (t : Tree A C) (follow : Bool) : Nat → Place → List Name → Option Place
  | 0 => t.walkNames follow fun _ _ => none
  | links + 1 => t.walkNames follow (t.walk follow links)

/-- How many links a path may pass. -/
def maxLinks : Nat := 40

/-- The place of the entry a path leads to, if there is one. -/
def locate (t : Tree A C) (follow : Bool) (path : List Name) : Option Place :=
  t.walk follow maxLinks [] path

/-- Every entry of the one tree is one of the same kind in the other. -/
def Grows (t t' : Tree A C) : Prop := ∀ p k, t.kindAt p = some k → t'.kindAt p = some k

/-- The place is not that of a link. -/
def NoLink (t : Tree A C) (p : Place) : Prop := ∀ text, t.kindAt p ≠ some (.link text)

theorem kindAt_parent (t : Tree A C) {p : Place} (dir : t.kindAt p = some .dir) :
    t.kindAt p.tail = some .dir := by
  cases p with
  | nil => exact dir
  | cons n p =>
      have found : t.kindAt (n :: p) ≠ none := by
        rw [dir]
        simp
      exact kindAt_tail found

section Jumps

variable {t t' : Tree A C} {follow : Bool} {jump jump' : Place → List Name → Option Place}

/-- In a larger tree a path leads to the same place. -/
theorem walkNames_mono (grows : Grows t t')
    (jumps : ∀ p names q, jump p names = some q → jump' p names = some q) {p q : Place}
    {names : List Name} (leads : t.walkNames follow jump p names = some q) :
    t'.walkNames follow jump' p names = some q := by
  induction names generalizing p with
  | nil => exact leads
  | cons n rest ih =>
      unfold walkNames at leads ⊢
      by_cases isDot : n = dot
      · rw [if_pos isDot] at leads ⊢
        exact ih leads
      by_cases isDotDot : n = dotDot
      · rw [if_neg isDot, if_pos isDotDot] at leads ⊢
        exact ih leads
      · rw [if_neg isDot, if_neg isDotDot] at leads ⊢
        cases kind : t.kindAt (n :: p) with
        | none =>
            rw [kind] at leads
            cases leads
        | some k =>
            rw [kind] at leads
            rw [grows _ _ kind]
            cases k with
            | dir => exact ih leads
            | file content => exact leads
            | link text =>
                dsimp only at leads ⊢
                by_cases last : rest = [] ∧ follow = false
                · rw [if_pos last] at leads ⊢
                  exact leads
                · rw [if_neg last] at leads ⊢
                  exact jumps _ _ _ leads

/-- A path leads to an entry, and to a link only if the last one is not followed. -/
theorem walkNames_found
    (jumps : ∀ p names q, t.kindAt p = some .dir → jump p names = some q →
      t.kindAt q ≠ none ∧ (follow = true → t.NoLink q))
    {p q : Place} {names : List Name} (start : t.kindAt p = some .dir)
    (leads : t.walkNames follow jump p names = some q) :
    t.kindAt q ≠ none ∧ (follow = true → t.NoLink q) := by
  induction names generalizing p with
  | nil =>
      cases leads
      rw [NoLink, start]
      simp
  | cons n rest ih =>
      unfold walkNames at leads
      by_cases isDot : n = dot
      · rw [if_pos isDot] at leads
        exact ih start leads
      by_cases isDotDot : n = dotDot
      · rw [if_neg isDot, if_pos isDotDot] at leads
        exact ih (t.kindAt_parent start) leads
      · rw [if_neg isDot, if_neg isDotDot] at leads
        cases kind : t.kindAt (n :: p) with
        | none =>
            rw [kind] at leads
            cases leads
        | some k =>
            rw [kind] at leads
            cases k with
            | dir => exact ih kind leads
            | file content =>
                dsimp only at leads
                split_ifs at leads
                cases leads
                rw [NoLink, kind]
                simp
            | link text =>
                dsimp only at leads
                split_ifs at leads with last absolute
                · cases leads
                  rw [kind, last.2]
                  simp
                · exact jumps _ _ _ t.kindAt_root leads
                · exact jumps _ _ _ start leads

/-- A path to an entry that is no link is followed to the same place. -/
theorem walkNames_follow
    (jumps : ∀ p names q, t.NoLink q → jump p names = some q → jump' p names = some q)
    {p q : Place} {names : List Name} (noLink : t.NoLink q)
    (leads : t.walkNames false jump p names = some q) :
    t.walkNames true jump' p names = some q := by
  induction names generalizing p with
  | nil => exact leads
  | cons n rest ih =>
      unfold walkNames at leads ⊢
      by_cases isDot : n = dot
      · rw [if_pos isDot] at leads ⊢
        exact ih leads
      by_cases isDotDot : n = dotDot
      · rw [if_neg isDot, if_pos isDotDot] at leads ⊢
        exact ih leads
      · rw [if_neg isDot, if_neg isDotDot] at leads ⊢
        cases kind : t.kindAt (n :: p) with
        | none =>
            rw [kind] at leads
            cases leads
        | some k =>
            rw [kind] at leads
            cases k with
            | dir => exact ih leads
            | file content => exact leads
            | link text =>
                dsimp only at leads ⊢
                rw [if_neg (by simp)]
                by_cases last : rest = [] ∧ false = false
                · rw [if_pos last] at leads
                  cases leads
                  exact absurd kind (noLink text)
                · rw [if_neg last] at leads
                  exact jumps _ _ _ noLink leads

/-- A path that ends with a name leads to an entry of the directory before it. -/
theorem walkNames_concat {n : Name} (name : IsName n)
    (jumps : ∀ p names q, jump p (names ++ [n]) = some q → ∃ d, jump' p names = some d ∧
      t.kindAt (n :: d) ≠ none ∧ (t.NoLink (n :: d) ∨ follow = false → q = n :: d))
    {p q : Place} {names : List Name} (leads : t.walkNames follow jump p (names ++ [n]) = some q) :
    ∃ d, t.walkNames true jump' p names = some d ∧ t.kindAt (n :: d) ≠ none ∧
      (t.NoLink (n :: d) ∨ follow = false → q = n :: d) := by
  induction names generalizing p with
  | nil =>
      rw [List.nil_append] at leads
      unfold walkNames at leads
      rw [if_neg name.2.1, if_neg name.2.2.1] at leads
      refine ⟨p, rfl, ?_⟩
      cases kind : t.kindAt (n :: p) with
      | none =>
          rw [kind] at leads
          cases leads
      | some k =>
          rw [kind] at leads
          refine ⟨by simp, ?_⟩
          intro plain
          cases k with
          | dir =>
              cases leads
              rfl
          | file content =>
              cases leads
              rfl
          | link text =>
              dsimp only at leads
              rcases plain with noLink | stays
              · exact absurd kind (noLink text)
              · rw [if_pos ⟨rfl, stays⟩] at leads
                exact (Option.some.inj leads).symm
  | cons m rest ih =>
      rw [List.cons_append] at leads
      unfold walkNames at leads ⊢
      by_cases isDot : m = dot
      · rw [if_pos isDot] at leads ⊢
        exact ih leads
      by_cases isDotDot : m = dotDot
      · rw [if_neg isDot, if_pos isDotDot] at leads ⊢
        exact ih leads
      · rw [if_neg isDot, if_neg isDotDot] at leads ⊢
        cases kind : t.kindAt (m :: p) with
        | none =>
            rw [kind] at leads
            cases leads
        | some k =>
            rw [kind] at leads
            cases k with
            | dir => exact ih leads
            | file content =>
                dsimp only at leads
                rw [if_neg (by simp)] at leads
                cases leads
            | link text =>
                dsimp only at leads ⊢
                rw [if_neg (by simp), ← List.append_assoc] at leads
                rw [if_neg (by simp)]
                exact jumps _ _ _ leads

/-- An entry of a directory is found under its name. -/
theorem walkNames_entry {n : Name} (name : IsName n) {d : Place} (found : t.kindAt (n :: d) ≠ none)
    (plain : t.NoLink (n :: d) ∨ follow = false)
    (jumps : ∀ p names, jump' p names = some d → jump p (names ++ [n]) = some (n :: d))
    {p : Place} {names : List Name} (leads : t.walkNames true jump' p names = some d) :
    t.walkNames follow jump p (names ++ [n]) = some (n :: d) := by
  induction names generalizing p with
  | nil =>
      cases leads
      rw [List.nil_append]
      unfold walkNames
      rw [if_neg name.2.1, if_neg name.2.2.1]
      cases kind : t.kindAt (n :: d) with
      | none => exact absurd kind found
      | some k =>
          cases k with
          | dir => rfl
          | file content => rfl
          | link text =>
              dsimp only
              rcases plain with noLink | stays
              · exact absurd kind (noLink text)
              · rw [if_pos ⟨rfl, stays⟩]
  | cons m rest ih =>
      rw [List.cons_append]
      unfold walkNames at leads ⊢
      by_cases isDot : m = dot
      · rw [if_pos isDot] at leads ⊢
        exact ih leads
      by_cases isDotDot : m = dotDot
      · rw [if_neg isDot, if_pos isDotDot] at leads ⊢
        exact ih leads
      · rw [if_neg isDot, if_neg isDotDot] at leads ⊢
        cases kind : t.kindAt (m :: p) with
        | none =>
            rw [kind] at leads
            cases leads
        | some k =>
            rw [kind] at leads
            cases k with
            | dir => exact ih leads
            | file content =>
                dsimp only at leads
                split_ifs at leads
                cases leads
                rw [kindAt_tail found] at kind
                cases kind
            | link text =>
                dsimp only at leads ⊢
                rw [if_neg (by simp)] at leads
                rw [if_neg (by simp), ← List.append_assoc]
                exact jumps _ _ leads

/-- A path leads through what a beginning of it leads to. -/
theorem walkNames_append {more : List Name}
    (jumps : ∀ p names q, t.kindAt p = some .dir → jump p (names ++ more) = some q →
      ∃ d, jump' p names = some d ∧ (more = [] ∨ t.kindAt d = some .dir))
    {p q : Place} {names : List Name} (start : t.kindAt p = some .dir)
    (leads : t.walkNames true jump p (names ++ more) = some q) :
    ∃ d, t.walkNames true jump' p names = some d ∧ (more = [] ∨ t.kindAt d = some .dir) := by
  induction names generalizing p with
  | nil => exact ⟨p, rfl, Or.inr start⟩
  | cons m rest ih =>
      rw [List.cons_append] at leads
      unfold walkNames at leads ⊢
      by_cases isDot : m = dot
      · rw [if_pos isDot] at leads ⊢
        exact ih start leads
      by_cases isDotDot : m = dotDot
      · rw [if_neg isDot, if_pos isDotDot] at leads ⊢
        exact ih (t.kindAt_parent start) leads
      · rw [if_neg isDot, if_neg isDotDot] at leads ⊢
        cases kind : t.kindAt (m :: p) with
        | none =>
            rw [kind] at leads
            cases leads
        | some k =>
            rw [kind] at leads
            cases k with
            | dir => exact ih kind leads
            | file content =>
                dsimp only at leads ⊢
                by_cases last : rest ++ more = []
                · obtain ⟨rfl, rfl⟩ := List.append_eq_nil_iff.mp last
                  exact ⟨_, if_pos rfl, Or.inl rfl⟩
                · rw [if_neg last] at leads
                  cases leads
            | link text =>
                dsimp only at leads ⊢
                rw [if_neg (by simp), ← List.append_assoc] at leads
                rw [if_neg (by simp)]
                split_ifs at leads ⊢
                · exact jumps _ _ _ t.kindAt_root leads
                · exact jumps _ _ _ start leads

end Jumps

section Locations

variable {t t' : Tree A C} {follow : Bool} {path : List Name} {n : Name} {p q d : Place}

/-- In a larger tree a path leads to the same place. -/
theorem Grows.locate (grows : Grows t t') (leads : t.locate follow path = some q) :
    t'.locate follow path = some q := by
  have all : ∀ links p names q, t.walk follow links p names = some q →
      t'.walk follow links p names = some q := by
    intro links
    induction links with
    | zero => exact fun p names q leads => walkNames_mono grows (by simp) leads
    | succ links ih => exact fun p names q leads => walkNames_mono grows ih leads
  exact all _ _ _ _ leads

/-- A path leads to an entry, and to a link only if the last one is not followed. -/
theorem locate_found (leads : t.locate follow path = some q) :
    t.kindAt q ≠ none ∧ (follow = true → t.NoLink q) := by
  have all : ∀ links p names q, t.kindAt p = some .dir → t.walk follow links p names = some q →
      t.kindAt q ≠ none ∧ (follow = true → t.NoLink q) := by
    intro links
    induction links with
    | zero => exact fun p names q start leads => walkNames_found (by simp) start leads
    | succ links ih => exact fun p names q start leads => walkNames_found ih start leads
  exact all _ _ _ _ t.kindAt_root leads

/-- A path to an entry that is no link is followed to the same place. -/
theorem locate_follow (noLink : t.NoLink q) (leads : t.locate false path = some q) :
    t.locate true path = some q := by
  have all : ∀ links p names q, t.NoLink q → t.walk false links p names = some q →
      t.walk true links p names = some q := by
    intro links
    induction links with
    | zero => exact fun p names q noLink leads => walkNames_follow (by simp) noLink leads
    | succ links ih => exact fun p names q noLink leads => walkNames_follow ih noLink leads
  exact all _ _ _ _ noLink leads

/-- A path that ends with a name leads to an entry of the directory before it. -/
theorem locate_concat (name : IsName n) (leads : t.locate follow (path ++ [n]) = some q) :
    ∃ d, t.locate true path = some d ∧ t.kindAt (n :: d) ≠ none ∧
      (t.NoLink (n :: d) ∨ follow = false → q = n :: d) := by
  have all : ∀ links p names q, t.walk follow links p (names ++ [n]) = some q →
      ∃ d, t.walk true links p names = some d ∧ t.kindAt (n :: d) ≠ none ∧
        (t.NoLink (n :: d) ∨ follow = false → q = n :: d) := by
    intro links
    induction links with
    | zero => exact fun p names q leads => walkNames_concat name (by simp) leads
    | succ links ih => exact fun p names q leads => walkNames_concat name ih leads
  exact all _ _ _ _ leads

/-- An entry of a directory is found under its name. -/
theorem locate_entry (found : t.kindAt (n :: d) ≠ none) (plain : t.NoLink (n :: d) ∨ follow = false)
    (leads : t.locate true path = some d) : t.locate follow (path ++ [n]) = some (n :: d) := by
  have all : ∀ links p names, t.walk true links p names = some d →
      t.walk follow links p (names ++ [n]) = some (n :: d) := by
    intro links
    induction links with
    | zero => exact fun p names leads => walkNames_entry (isName found) found plain (by simp) leads
    | succ links ih => exact fun p names leads => walkNames_entry (isName found) found plain ih leads
  exact all _ _ _ leads

/-- A path leads through what a beginning of it leads to. -/
theorem locate_append {more : List Name} (leads : t.locate true (path ++ more) = some q) :
    ∃ d, t.locate true path = some d ∧ (more = [] ∨ t.kindAt d = some .dir) := by
  have all : ∀ links p names q, t.kindAt p = some .dir →
      t.walk true links p (names ++ more) = some q →
      ∃ d, t.walk true links p names = some d ∧ (more = [] ∨ t.kindAt d = some .dir) := by
    intro links
    induction links with
    | zero => exact fun p names q start leads => walkNames_append (by simp) start leads
    | succ links ih => exact fun p names q start leads => walkNames_append ih start leads
  exact all _ _ _ _ t.kindAt_root leads

/-- What a beginning of a path to a directory leads to is a directory. -/
theorem locate_beginning {more : List Name} (leads : t.locate true (path ++ more) = some q)
    (dir : t.kindAt q = some .dir) : ∃ d, t.locate true path = some d ∧ t.kindAt d = some .dir := by
  obtain ⟨d, leads', last⟩ := locate_append leads
  refine ⟨d, leads', ?_⟩
  rcases last with rfl | inner
  · rw [List.append_nil, leads'] at leads
    rw [Option.some.inj leads]
    exact dir
  · exact inner

/-- An entry that a path leads to without following it lies where its name says. -/
theorem locate_nofollow (name : IsName n) (dir : t.locate true path = some d)
    (leads : t.locate false (path ++ [n]) = some q) : q = n :: d := by
  obtain ⟨d', leads', -, same⟩ := locate_concat name leads
  obtain rfl := Option.some.inj (dir.symm.trans leads')
  exact same (Or.inr rfl)

end Locations

theorem Grows.refl (t : Tree A C) : Grows t t := fun _ _ found => found

theorem Grows.trans {t t' t'' : Tree A C} (first : Grows t t') (second : Grows t' t'') :
    Grows t t'' := fun p k found => second p k (first p k found)

end Tree

end FileTree
