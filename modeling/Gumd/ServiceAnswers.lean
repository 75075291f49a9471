import Gumd.Atomicity
import Gumd.UserCache
import Gumd.UserService

/-!
# What the user service answers

A peer that asks for a user gets an adapter of its own, whose object is that user, as long as no
object takes a uid it does not get an entry for, no user is deleted under another adapter, and no
user of a deletion is handed out again before the adapter of the deletion is gone.
-/

namespace Gumd

open StateWp EntryLoop Runs

/-! ## Deletions -/

namespace GumdDaemonUser

/-- Where the sessions of the user end, no later step of the deletion can fail. -/
def Ends (u : GumdDaemonUser) (env : Env) (remHomeDir : Bool) (euid : UInt32) (f : Files) : Prop :=
  ∀ name pent spent, u.Located euid f name pent spent → terminateUser env.logind = true →
    PrimaryGroupGoes env (f.removePasswd pent) pent ∧
      (remHomeDir = true → (u.copyPasswdStruct pent).homeDirDeleteError env = none)

/-- An undisturbed deletion that ends keeps the passwd file, or succeeds for a user who is there. -/
theorem UserDeleted.ends {calm : Prop} {u : GumdDaemonUser} {env : Env} {rem r : Bool}
    {euid : UInt32} {f f' : Files} (deleted : u.UserDeleted calm env rem euid f r f')
    (undisturbed : calm) (ends : u.Ends env rem euid f) : r = false ∧ f'.passwd = f.passwd ∨
      r = true ∧ terminateUser env.logind = true ∧
        ∃ name pent spent, u.Located euid f name pent spent := by
  cases deleted with
  | refused why => exact Or.inl ⟨rfl, rfl⟩
  | survived located alive unlocked =>
    rcases unlocked with rfl | ⟨-, rfl⟩
    · exact Or.inl ⟨rfl, rfl⟩
    · exact Or.inl ⟨rfl, rfl⟩
  | interrupted disturbed => exact absurd undisturbed disturbed
  | noGroup located terminated same deleted =>
    have goes := (ends _ _ _ located terminated).1
    rw [← primaryGroupGoes_removed same, ← deleted_doomed_iff undisturbed deleted] at goes
    cases goes
  | memberships disturbed => exact absurd undisturbed disturbed
  | ended located terminated same deleted parted =>
    refine Or.inr ⟨?_, terminated, _, _, _, located⟩
    cases rem with
    | false => rfl
    | true =>
      have home := (ends _ _ _ located terminated).2 rfl
      rw [home]
      rfl

end GumdDaemonUser

/-! ## Additions -/

/-- An addition that settles, or does not get the lock, leaves an object without a uid or one that
mirrors its entry. -/
theorem System.userAdd_settles {s : System} {c : Call} {i : Nat} (op : c.operation = .userAdd i)
    (settles : (s.world c).lockGranted = true →
      (s.world c).Faultless ∧ (s.users i).Settles c.env s.files)
    (before : (s.users i).pw.pwUid = gumUserInvalidUid ∨
      (s.users i).Mirrors (s.users i).pw.pwUid s.files.passwd) :
    (((s.step c).users i).pw.pwUid = gumUserInvalidUid ∨
      ((s.step c).users i).Mirrors ((s.step c).users i).pw.pwUid (s.step c).files.passwd) ∧
    ∀ uid, (s.users i).Mirrors uid s.files.passwd →
      ((s.step c).users i).Mirrors uid (s.step c).files.passwd := by
  have keep : (s.users i).SameIdentity ((s.step c).users i) →
      (s.step c).files.passwd = s.files.passwd → ∀ uid, (s.users i).Mirrors uid s.files.passwd →
        ((s.step c).users i).Mirrors uid (s.step c).files.passwd := fun same passwd uid held =>
    held.keep same fun pw mem _ => ⟨pw, passwd ▸ mem, rfl, rfl⟩
  have same : (s.users i).SameIdentity ((s.step c).users i) →
      (s.step c).files.passwd = s.files.passwd →
      (((s.step c).users i).pw.pwUid = gumUserInvalidUid ∨
        ((s.step c).users i).Mirrors ((s.step c).users i).pw.pwUid (s.step c).files.passwd) ∧
      ∀ uid, (s.users i).Mirrors uid s.files.passwd →
        ((s.step c).users i).Mirrors uid (s.step c).files.passwd := by
    intro same passwd
    refine ⟨?_, keep same passwd⟩
    rw [same.uid]
    exact before.imp_right (keep same passwd _)
  have self := s.runUser_self c i (GumdDaemonUser.gumdDaemonUserAdd c.env)
  have step : s.step c = (s.runUser c i (GumdDaemonUser.gumdDaemonUserAdd c.env)).2 := by
    rw [System.step, System.call, op]
    rfl
  by_cases granted : (s.world c).lockGranted = true
  swap
  · obtain ⟨-, unchanged, files⟩ := GumdDaemonUser.gumdDaemonUserAdd_denied
      (s := ⟨s.users i, s.world c⟩) (Bool.eq_false_iff.mpr granted) c.env
    rw [← self, ← step] at unchanged
    refine same unchanged (congrArg Files.passwd ?_)
    rw [step]
    exact files
  obtain ⟨faultless, settles⟩ := settles granted
  by_cases known : ∃ uid, (s.users i).Mirrors uid s.files.passwd
  · obtain ⟨uid, held⟩ := known
    obtain ⟨name, given, known⟩ := held.known
    obtain ⟨-, unchanged, passwd⟩ := System.userAdd_existing op faultless.read given known
    exact same unchanged passwd
  · refine ⟨?_, fun uid held => absurd ⟨uid, held⟩ known⟩
    have unset := before.resolve_right fun held => known ⟨_, held⟩
    have spec := @GumdDaemonUser.gumdDaemonUserAdd_settles ⟨s.users i, s.world c⟩ faultless.read
      c.env settles faultless.write faultless.readShadow
    rcases spec with kept | ⟨pw, mem, put⟩
    · refine Or.inl ?_
      rw [step, self]
      exact kept.trans unset
    · refine Or.inr ?_
      rw [step, self]
      obtain ⟨named, own, -⟩ := PasswdRecord.keys_of_putpwent put
      exact ⟨rfl, pw, mem, own.symm, named⟩

/-- What an undisturbed deletion that ends does: it keeps the passwd file, or succeeds and removes at
most an entry of the object's uid. -/
theorem System.userDelete_ends {s : System} {c : Call} {i : Nat} {rem : Bool}
    (op : c.operation = .userDelete i rem)
    (ends : (s.world c).lockGranted = true → (s.world c).Faultless ∧
      (s.users i).Ends c.env rem (s.world c).afterLock.process.euid s.files) :
    (s.call c).1 = false ∧ (s.step c).files.passwd = s.files.passwd ∨
      (s.call c).1 = true ∧ (s.world c).lockGranted = true ∧
        GumdDaemonUser.terminateUser c.env.logind = true ∧
        (∃ name pent spent, (s.users i).Located (s.world c).afterLock.process.euid s.files name pent
          spent) ∧
        ∀ pw ∈ s.files.passwd, pw.pwUid ≠ (s.users i).pw.pwUid → pw ∈ (s.step c).files.passwd := by
  obtain ⟨-, removes⟩ := System.userDelete_keeps op
  have spec := @GumdDaemonUser.gumdDaemonUserDelete_spec ⟨s.users i, s.world c⟩
  have call : s.call c = s.runUser c i (GumdDaemonUser.gumdDaemonUserDelete c.env rem) := by
    rw [System.call, op]
  by_cases granted : (s.world c).lockGranted = true
  swap
  · have nothing : ∀ {r passwd}, (s.users i).Removes c.env (s.world c) r passwd →
        r = false ∧ passwd = s.files.passwd := by
      intro r passwd removes
      cases removes with
      | nothing => exact ⟨rfl, rfl⟩
      | removed granted' => exact absurd granted' granted
    exact Or.inl (nothing removes)
  obtain ⟨faultless, ends⟩ := ends granted
  have deleted := (spec faultless.read c.env rem).2
  rcases deleted.ends (faultless.calm granted) ends with ⟨failed, passwd⟩ | ⟨done, terminated, located⟩
  · rw [System.step, call]
    exact Or.inl ⟨failed, passwd⟩
  · refine Or.inr ⟨?_, granted, terminated, located, fun pw mem other => ?_⟩
    · rw [call]
      exact done
    · generalize (s.step c).files.passwd = passwd', (s.call c).1 = r at removes
      cases removes with
      | nothing => exact mem
      | @removed _ pent _ _ valid found =>
        refine (List.mem_eraseP_of_neg fun picked => ?_).mpr mem
        have uid : pent.pwUid = pw.pwUid := (of_decide_eq_true picked).1
        have own := (PasswdRecord.agrees_iff.mp (World.seenPasswd_some found).1).1.resolve_left valid
        exact other (uid.symm.trans own.symm)

/-! ## The state of the service -/

namespace UserService

/-- The adapters are distinct and have distinct objects only as far as they are alike, the object of
an adapter that is not going is the user of its uid if it has one, and so is every object in the
daemon's table. -/
structure Right (s : UserService) : Prop where
  distinct : ∀ p ∈ s.peerUsers, ∀ q ∈ s.peerUsers, p.userAdapter = q.userAdapter → p = q
  numbered : ∀ p ∈ s.peerUsers, p.userAdapter < s.objectCounter
  created : ∀ p ∈ s.peerUsers, p.user < s.daemon.userCount
  alike : ∀ p ∈ s.peerUsers, ∀ q ∈ s.peerUsers, p.user = q.user → p.deleteLater = q.deleteLater
  mirrors : ∀ p ∈ s.peerUsers, p.deleteLater = false → s.adapterUid p = gumUserInvalidUid ∨
    (s.daemon.system.users p.user).Mirrors (s.adapterUid p) s.daemon.system.files.passwd
  table : ∀ uid i, s.daemon.users uid = some i → ∃ p ∈ s.peerUsers, p.user = i ∧
    (p.deleteLater = false →
      (s.daemon.system.users i).Mirrors uid s.daemon.system.files.passwd)

/-- A service that has created no adapter. -/
theorem right_new (system : System) : (new system).Right where
  distinct _ mem := nomatch mem
  numbered _ mem := nomatch mem
  created _ mem := nomatch mem
  alike _ mem := nomatch mem
  mirrors _ mem := nomatch mem
  table _ _ cached := nomatch cached

/-- The adapter is found under its number. -/
theorem Right.peerUser_of_mem {s : UserService} (right : s.Right) {p : PeerUser}
    (mem : p ∈ s.peerUsers) : s.peerUser p.userAdapter = some p := by
  cases found : s.peerUser p.userAdapter with
  | none =>
    have absent := List.find?_eq_none.mp found p mem
    simp at absent
  | some q =>
    have same : q.userAdapter = p.userAdapter := by simpa using List.find?_some found
    rw [right.distinct q (List.mem_of_find?_eq_some found) p mem same]

/-- The table leads to objects that exist. -/
theorem Right.known {s : UserService} (right : s.Right) {uid : UInt32} {i : Nat}
    (cached : s.daemon.users uid = some i) : i < s.daemon.userCount := by
  obtain ⟨p, mem, rfl, -⟩ := right.table uid i cached
  exact right.created p mem

/-- A step of the system that keeps what the objects of the adapters are. -/
theorem Right.evolve {s : UserService} (right : s.Right) {system : System}
    (after : ∀ p ∈ s.peerUsers, p.deleteLater = false →
      ((system.users p.user).pw.pwUid = gumUserInvalidUid ∨
        (system.users p.user).Mirrors (system.users p.user).pw.pwUid system.files.passwd) ∧
      ∀ uid, s.daemon.users uid = some p.user →
        (s.daemon.system.users p.user).Mirrors uid s.daemon.system.files.passwd →
          (system.users p.user).Mirrors uid system.files.passwd) :
    { s with daemon := { s.daemon with system := system } }.Right where
  distinct := right.distinct
  numbered := right.numbered
  created := right.created
  alike := right.alike
  mirrors p mem stays := (after p mem stays).1
  table uid i cached := by
    obtain ⟨p, mem, rfl, held⟩ := right.table uid i cached
    exact ⟨p, mem, rfl, fun stays => (after p mem stays).2 uid cached (held stays)⟩

/-- A step of the system that keeps who the objects of the adapters are, and their entries. -/
theorem Right.keep {s : UserService} (right : s.Right) {system : System}
    (same : ∀ p ∈ s.peerUsers, p.deleteLater = false →
      (s.daemon.system.users p.user).SameIdentity (system.users p.user))
    (kept : ∀ p ∈ s.peerUsers, p.deleteLater = false → ∀ pw ∈ s.daemon.system.files.passwd,
      pw.pwUid = s.adapterUid p →
        ∃ pw' ∈ system.files.passwd, pw'.pwUid = pw.pwUid ∧ pw'.pwName = pw.pwName) :
    { s with daemon := { s.daemon with system := system } }.Right := by
  refine right.evolve fun p mem stays => ⟨?_, fun uid _ held => ?_⟩
  · have uid := (same p mem stays).uid
    rcases right.mirrors p mem stays with invalid | mirrors
    · exact Or.inl (uid.trans invalid)
    · rw [uid]
      exact Or.inr (mirrors.keep (same p mem stays) (kept p mem stays))
  · exact held.keep (same p mem stays) fun pw mem' own => kept p mem stays pw mem' (own.trans held.own.symm)

/-- A new adapter. -/
theorem Right.cache {s : UserService} (right : s.Right) {u : Nat} {n : Str}
    (created : u < s.daemon.userCount)
    (stays : ∀ p ∈ s.peerUsers, p.user = u → p.deleteLater = false)
    (mirrors : (s.daemon.system.users u).pw.pwUid = gumUserInvalidUid ∨
      (s.daemon.system.users u).Mirrors (s.daemon.system.users u).pw.pwUid
        s.daemon.system.files.passwd) :
    (s.createAndCacheUserAdapter u n).2.Right where
  distinct p memP q memQ same := by
    rcases List.mem_append.mp memP with oldP | newP
    · rcases List.mem_append.mp memQ with oldQ | newQ
      · exact right.distinct p oldP q oldQ same
      · obtain rfl := List.mem_singleton.mp newQ
        exact absurd same (Nat.ne_of_lt (right.numbered p oldP))
    · obtain rfl := List.mem_singleton.mp newP
      rcases List.mem_append.mp memQ with oldQ | newQ
      · exact absurd same.symm (Nat.ne_of_lt (right.numbered q oldQ))
      · exact (List.mem_singleton.mp newQ).symm
  numbered p mem := by
    rcases List.mem_append.mp mem with old | new
    · exact Nat.lt_succ_of_lt (right.numbered p old)
    · obtain rfl := List.mem_singleton.mp new
      exact Nat.lt_succ_self _
  created p mem := by
    rcases List.mem_append.mp mem with old | new
    · exact right.created p old
    · obtain rfl := List.mem_singleton.mp new
      exact created
  alike p memP q memQ same := by
    rcases List.mem_append.mp memP with oldP | newP
    · rcases List.mem_append.mp memQ with oldQ | newQ
      · exact right.alike p oldP q oldQ same
      · obtain rfl := List.mem_singleton.mp newQ
        exact stays p oldP same
    · obtain rfl := List.mem_singleton.mp newP
      rcases List.mem_append.mp memQ with oldQ | newQ
      · exact (stays q oldQ same.symm).symm
      · obtain rfl := List.mem_singleton.mp newQ
        rfl
  mirrors p mem going := by
    rcases List.mem_append.mp mem with old | new
    · exact right.mirrors p old going
    · obtain rfl := List.mem_singleton.mp new
      exact mirrors
  table uid i cached := by
    obtain ⟨p, mem, same, held⟩ := right.table uid i cached
    exact ⟨p, List.mem_append_left _ mem, same, held⟩

/-- A new entry of the table, for the object of an adapter. -/
theorem Right.insert {s : UserService} (right : s.Right) {u : UInt32} {p : PeerUser}
    (mem : p ∈ s.peerUsers) (held : p.deleteLater = false →
      (s.daemon.system.users p.user).Mirrors u s.daemon.system.files.passwd) :
    { s with daemon := { s.daemon with
      users := Function.update s.daemon.users u (some p.user) } }.Right where
  distinct := right.distinct
  numbered := right.numbered
  created := right.created
  alike := right.alike
  mirrors := right.mirrors
  table u' i cached := by
    by_cases same : u' = u
    · subst same
      obtain rfl : p.user = i := by simpa using cached
      exact ⟨p, mem, rfl, held⟩
    · exact right.table u' i (by simpa [Function.update_of_ne same] using cached)

/-- More objects may exist. -/
theorem Right.grow {s : UserService} (right : s.Right) :
    { s with daemon := { s.daemon with userCount := s.daemon.userCount + 1 } }.Right where
  distinct := right.distinct
  numbered := right.numbered
  created p mem := Nat.lt_succ_of_lt (right.created p mem)
  alike := right.alike
  mirrors := right.mirrors
  table := right.table

/-- A step of the system that only makes a new object. -/
theorem Right.fresh {s : UserService} (right : s.Right) {system : System}
    (files : system.files = s.daemon.system.files)
    (others : ∀ j, j ≠ s.daemon.userCount → system.users j = s.daemon.system.users j) :
    { s with daemon := { s.daemon with system := system } }.Right := by
  refine right.keep (fun p mem _ => ?_) fun p _ _ pw mem _ => ⟨pw, files ▸ mem, rfl, rfl⟩
  rw [others p.user (Nat.ne_of_lt (right.created p mem))]
  exact .refl _

/-- The adapter of a deletion is going. -/
theorem Right.mark {s : UserService} (right : s.Right) {p : PeerUser} (mem : p ∈ s.peerUsers)
    (others : ∀ q ∈ s.peerUsers, q.userAdapter ≠ p.userAdapter → q.deleteLater = false →
      q.user ≠ p.user) :
    { s with peerUsers := s.peerUsers.map fun q : PeerUser =>
      if q.userAdapter = p.userAdapter then { q with deleteLater := true } else q }.Right := by
  -- every adapter comes from one that is the same but for the mark
  have origin : ∀ q ∈ s.peerUsers.map (fun q : PeerUser =>
      if q.userAdapter = p.userAdapter then { q with deleteLater := true } else q),
      q ∈ s.peerUsers ∧ q.userAdapter ≠ p.userAdapter ∨ q = { p with deleteLater := true } := by
    intro q mem'
    obtain ⟨q₀, mem₀, rfl⟩ := List.mem_map.mp mem'
    split_ifs with own
    · exact Or.inr (by rw [right.distinct q₀ mem₀ p mem own])
    · exact Or.inl ⟨mem₀, own⟩
  have going : ∀ q ∈ s.peerUsers, q.userAdapter ≠ p.userAdapter → q.user = p.user →
      q.deleteLater = true := by
    intro q mem' other same
    by_contra stays
    exact others q mem' other (Bool.eq_false_iff.mpr stays) same
  constructor
  · intro q memQ r memR same
    rcases origin q memQ with ⟨oldQ, otherQ⟩ | rfl
    · rcases origin r memR with ⟨oldR, -⟩ | rfl
      · exact right.distinct q oldQ r oldR same
      · exact absurd same otherQ
    · rcases origin r memR with ⟨-, otherR⟩ | rfl
      · exact absurd same.symm otherR
      · rfl
  · intro q memQ
    rcases origin q memQ with ⟨oldQ, -⟩ | rfl
    · exact right.numbered q oldQ
    · exact right.numbered p mem
  · intro q memQ
    rcases origin q memQ with ⟨oldQ, -⟩ | rfl
    · exact right.created q oldQ
    · exact right.created p mem
  · intro q memQ r memR same
    rcases origin q memQ with ⟨oldQ, otherQ⟩ | rfl
    · rcases origin r memR with ⟨oldR, -⟩ | rfl
      · exact right.alike q oldQ r oldR same
      · exact going q oldQ otherQ same
    · rcases origin r memR with ⟨oldR, otherR⟩ | rfl
      · exact (going r oldR otherR same.symm).symm
      · rfl
  · intro q memQ stays
    rcases origin q memQ with ⟨oldQ, -⟩ | rfl
    · exact right.mirrors q oldQ stays
    · cases stays
  · intro uid i cached
    obtain ⟨q, memQ, rfl, held⟩ := right.table uid i cached
    refine ⟨_, List.mem_map_of_mem memQ, ?_⟩
    split_ifs with own
    · exact ⟨rfl, by simp⟩
    · exact ⟨rfl, held⟩

/-- An adapter goes. -/
theorem Right.release {s : UserService} (right : s.Right) {p : PeerUser}
    (own : ∀ q ∈ s.peerUsers, q.userAdapter = p.userAdapter → q = p) : (s.release p).Right := by
  have old : ∀ q ∈ (s.release p).peerUsers, q ∈ s.peerUsers := fun q mem =>
    (List.mem_filter.mp mem).1
  have rest : ∀ q ∈ s.peerUsers, q = p ∨ q ∈ (s.release p).peerUsers := by
    intro q mem
    by_cases same : q.userAdapter = p.userAdapter
    · exact Or.inl (own q mem same)
    · exact Or.inr (List.mem_filter.mpr ⟨mem, by simpa using same⟩)
  have system : (s.release p).daemon.system = s.daemon.system := by
    rw [UserService.release]
    dsimp only
    split_ifs <;> rfl
  have userCount : (s.release p).daemon.userCount = s.daemon.userCount := by
    rw [UserService.release]
    dsimp only
    split_ifs <;> rfl
  -- an object that stays in the table has an adapter left
  have table : ∀ uid i, (s.release p).daemon.users uid = some i → s.daemon.users uid = some i ∧
      (p.user = i → ∃ q ∈ (s.release p).peerUsers, q.user = i) := by
    intro uid i cached
    simp only [UserService.release] at cached
    split_ifs at cached with any
    · obtain ⟨q, mem, same⟩ := List.any_eq_true.mp any
      exact ⟨cached, fun held => ⟨q, mem, (of_decide_eq_true same).trans held⟩⟩
    · obtain ⟨cached, other⟩ := Option.filter_eq_some_iff.mp cached
      exact ⟨cached, fun held => absurd held.symm (by simpa using other)⟩
  constructor
  · exact fun q memQ r memR => right.distinct q (old q memQ) r (old r memR)
  · exact fun q memQ => right.numbered q (old q memQ)
  · exact fun q memQ => userCount ▸ right.created q (old q memQ)
  · exact fun q memQ r memR => right.alike q (old q memQ) r (old r memR)
  · intro q memQ stays
    rw [adapterUid, system]
    exact right.mirrors q (old q memQ) stays
  · intro uid i cached
    obtain ⟨cached, left⟩ := table uid i cached
    obtain ⟨q, memQ, same, held⟩ := right.table uid i cached
    rw [system]
    rcases rest q memQ with rfl | stays
    · obtain ⟨r, memR, same'⟩ := left same
      refine ⟨r, memR, same', fun going => held ?_⟩
      rw [right.alike q memQ r (old r memR) (same.trans same'.symm)]
      exact going
    · exact ⟨q, stays, same, held⟩

/-- Adapters go one after another. -/
theorem Right.releases {going : List PeerUser} {s : UserService} (right : s.Right)
    (own : ∀ p ∈ going, ∀ q ∈ s.peerUsers, q.userAdapter = p.userAdapter → q = p) :
    (going.foldl UserService.release s).Right := by
  induction going generalizing s with
  | nil => exact right
  | cons p rest ih =>
    refine ih (right.release (own p List.mem_cons_self)) fun q memQ r memR => ?_
    exact own q (List.mem_cons_of_mem _ memQ) r (List.mem_filter.mp memR).1

/-! ## Answers -/

/-- The adapter of the number is the sender's and is not going, and its object is the user of the
uid. -/
def Hands (s : UserService) (adapter : Nat) (sender : Str) (uid : UInt32) : Prop :=
  ∃ p, s.peerUser adapter = some p ∧ p.peerName = sender ∧ p.deleteLater = false ∧
    (s.daemon.system.users p.user).Mirrors uid s.daemon.system.files.passwd

/-- The sender has an adapter of the uid, or the daemon has an object that is not going or an entry
with a valid name. -/
def Serves (s : UserService) (sender : Str) (uid : UInt32) : Prop :=
  (uid ≠ gumUserInvalidUid ∧ ∃ p ∈ s.peerUsers, p.peerName = sender ∧ s.adapterUid p = uid ∧
    p.deleteLater = false) ∨
  s.daemon.LoadsNamed uid ∧
    ∀ p ∈ s.peerUsers, s.daemon.users uid = some p.user → p.deleteLater = false

/-- An adapter that is found in the list is handed out. -/
theorem Right.hands_cached {s : UserService} (right : s.Right) {sender : Str} {uid : UInt32}
    {adapter : Nat} (found : s.getUserAdapterFromCache sender uid = some adapter) :
    s.Hands adapter sender uid := by
  rw [getUserAdapterFromCache] at found
  split_ifs at found with invalid
  obtain ⟨p, first, rfl⟩ := Option.map_eq_some_iff.mp found
  have mem := List.mem_of_find?_eq_some first
  obtain ⟨sent, own, stays⟩ : sender = p.peerName ∧ s.adapterUid p = uid ∧ p.deleteLater = false := by
    simpa using List.find?_some first
  refine ⟨p, right.peerUser_of_mem mem, sent.symm, stays, ?_⟩
  rcases right.mirrors p mem stays with unset | mirrors
  · exact absurd (own.symm.trans unset) invalid
  · rwa [own] at mirrors

/-- A new adapter is handed out. -/
theorem hands_created {s : UserService} {user : Nat} {sender : Str} {uid : UInt32}
    (right : (s.createAndCacheUserAdapter user sender).2.Right)
    (mirrors : (s.daemon.system.users user).Mirrors uid s.daemon.system.files.passwd) :
    (s.createAndCacheUserAdapter user sender).2.Hands
      (s.createAndCacheUserAdapter user sender).1 sender uid := by
  refine ⟨⟨sender, s.objectCounter, user, false⟩, ?_, rfl, rfl, mirrors⟩
  exact right.peerUser_of_mem (p := ⟨sender, s.objectCounter, user, false⟩)
    (List.mem_append_right _ (List.mem_singleton_self _))

theorem handleGetUser_right {s : UserService} (right : s.Right) (c : Context) {sender : Str}
    {uid : UInt32} (serves : s.Serves sender uid) :
    (s.handleGetUser c sender uid).2.Right ∧
      ∀ adapter, (s.handleGetUser c sender uid).1 = .path adapter →
        (s.handleGetUser c sender uid).2.Hands adapter sender uid := by
  rw [handleGetUser]
  cases found : s.getUserAdapterFromCache sender uid with
  | some adapter =>
    refine ⟨right, fun adapter' answered => ?_⟩
    obtain rfl : adapter = adapter' := ServiceReply.path.inj answered
    exact right.hands_cached found
  | none =>
    obtain ⟨named, stays⟩ : s.daemon.LoadsNamed uid ∧
        ∀ p ∈ s.peerUsers, s.daemon.users uid = some p.user → p.deleteLater = false := by
      refine serves.resolve_left ?_
      rintro ⟨valid, p, mem, sent, own, stays⟩
      rw [getUserAdapterFromCache, if_neg valid, Option.map_eq_none_iff, List.find?_eq_none] at found
      exact found p mem (decide_eq_true ⟨sent.symm, own, by simp [stays]⟩)
    have gets := s.daemon.getUser_gets c uid
    generalize s.daemon.getUser c uid = result at gets
    obtain ⟨user, d⟩ := result
    cases gets with
    | missing files others => exact ⟨right.fresh files others, fun _ answered => nomatch answered⟩
    | @cached i cached =>
      obtain ⟨p, mem, rfl, held⟩ := right.table uid i cached
      have mirrors := held (stays p mem cached)
      have cache : (s.createAndCacheUserAdapter p.user sender).2.Right := by
        refine right.cache (right.created p mem) (fun q memQ same => ?_) (Or.inr ?_)
        · exact stays q memQ (same ▸ cached)
        · rwa [mirrors.own]
      refine ⟨cache, fun adapter answered => ?_⟩
      obtain rfl := ServiceReply.path.inj answered
      exact hands_created cache mirrors
    | @loaded system valid files others mirrors =>
      replace mirrors := mirrors named
      have cache := (right.fresh files others).grow.cache (u := s.daemon.userCount) (n := sender)
        (Nat.lt_succ_self _) (fun p mem same => absurd same (Nat.ne_of_lt (right.created p mem)))
        (Or.inr (by rw [mirrors.own]; exact mirrors))
      have entered := cache.insert (u := uid)
        (p := ⟨sender, s.objectCounter, s.daemon.userCount, false⟩)
        (List.mem_append_right _ (List.mem_singleton_self _)) fun _ => mirrors
      refine ⟨entered, fun adapter answered => ?_⟩
      obtain rfl := ServiceReply.path.inj answered
      exact hands_created entered mirrors

theorem handleGetUserByName_right {s : UserService} (right : s.Right) (c : Context) {sender : Str}
    {username : Option Str} (unused : s.daemon.users gumUserInvalidUid = none)
    (serves : ∀ name pw, username = some name → s.daemon.system.files.getpwnam name = some pw →
      s.Serves sender pw.pwUid) :
    (s.handleGetUserByName c sender username).2.Right ∧
      ∀ adapter, (s.handleGetUserByName c sender username).1 = .path adapter →
        ∃ name pw, username = some name ∧ s.daemon.system.files.getpwnam name = some pw ∧
          (s.handleGetUserByName c sender username).2.Hands adapter sender pw.pwUid := by
  rw [handleGetUserByName]
  have found := gumdDaemonUserGetUidByName_found username
    ⟨s.daemon.system.files, c.faults, c.process, none⟩
  rw [wp] at found
  generalize (gumdDaemonUserGetUidByName username).run _ = result at *
  obtain ⟨uid, w⟩ := result
  dsimp only at found ⊢
  by_cases invalid : uid = gumUserInvalidUid
  · -- nothing is found under the invalid uid
    subst invalid
    have missing : s.getUserAdapterFromCache sender gumUserInvalidUid = none := if_pos rfl
    rw [handleGetUser, missing]
    dsimp only
    have gets := s.daemon.getUser_gets ⟨c.env, w.faults, w.process⟩ gumUserInvalidUid
    generalize s.daemon.getUser _ gumUserInvalidUid = result at gets
    obtain ⟨user, d⟩ := result
    cases gets with
    | cached cached => exact absurd (unused.symm.trans cached) (by simp)
    | missing files others => exact ⟨right.fresh files others, fun _ answered => by cases answered⟩
    | loaded valid => exact absurd rfl valid
  · obtain ⟨name, pw, rfl, byName, rfl⟩ := found invalid
    obtain ⟨after, handed⟩ := handleGetUser_right right ⟨c.env, w.faults, w.process⟩
      (serves name pw rfl byName)
    exact ⟨after, fun adapter answered => ⟨name, pw, rfl, byName, handed adapter answered⟩⟩

/-! ## Changes of users -/

theorem handleCreateNewUser_right {s : UserService} (right : s.Right) (c : Context) (sender : Str) :
    (s.handleCreateNewUser c sender).2.Right := by
  have others : ∀ j, j ≠ s.daemon.userCount →
      (s.daemon.system.step (c.call (.userNew s.daemon.userCount))).users j =
        s.daemon.system.users j := fun j other => Function.update_of_ne other ..
  have own : (s.daemon.system.step (c.call (.userNew s.daemon.userCount))).users
      s.daemon.userCount = gumdDaemonUserNew := Function.update_self ..
  have unset : ((s.daemon.system.step (c.call (.userNew s.daemon.userCount))).users
      s.daemon.userCount).pw.pwUid = gumUserInvalidUid := by
    rw [own]
    rfl
  have fresh : { s with daemon := { s.daemon with
      system := s.daemon.system.step (c.call (.userNew s.daemon.userCount)) } }.Right :=
    right.fresh rfl others
  refine fresh.grow.cache (Nat.lt_succ_self _) ?_ (Or.inl unset)
  exact fun p mem same => absurd same (Nat.ne_of_lt (right.created p mem))

/-- A change of the user of one adapter. -/
theorem Right.change {s : UserService} (right : s.Right) {p : PeerUser} (mem : p ∈ s.peerUsers)
    {system : System} (others : ∀ j, j ≠ p.user → system.users j = s.daemon.system.users j)
    (kept : ∀ pw ∈ s.daemon.system.files.passwd, pw ∈ system.files.passwd)
    (after : p.deleteLater = false →
      ((system.users p.user).pw.pwUid = gumUserInvalidUid ∨
        (system.users p.user).Mirrors (system.users p.user).pw.pwUid system.files.passwd) ∧
      ∀ uid, s.daemon.users uid = some p.user →
        (s.daemon.system.users p.user).Mirrors uid s.daemon.system.files.passwd →
          (system.users p.user).Mirrors uid system.files.passwd) :
    { s with daemon := { s.daemon with system := system } }.Right := by
  refine right.evolve fun q memQ stays => ?_
  by_cases same : q.user = p.user
  · rw [same]
    exact after ((right.alike p mem q memQ same.symm).trans stays)
  · have keep : ∀ {uid}, (s.daemon.system.users q.user).Mirrors uid s.daemon.system.files.passwd →
        (s.daemon.system.users q.user).Mirrors uid system.files.passwd := fun mirrors =>
      mirrors.keep (.refl _) fun pw mem _ => ⟨pw, kept pw mem, rfl, rfl⟩
    rw [others q.user same]
    exact ⟨(right.mirrors q memQ stays).imp_right keep, fun uid _ => keep⟩

/-- A write over D-Bus leaves a user who may have an entry who it is. -/
def SetsKnown (s : UserService) (adapter : Nat) (property : UserProperty) : Prop :=
  ∀ p, s.peerUser adapter = some p → p.deleteLater = false → property.Writable →
    property.KeepsIdentity ∨ s.adapterUid p = gumUserInvalidUid ∧ ¬s.daemon.Caches p.user

theorem setProperty_right {s : UserService} (right : s.Right) (c : Context) {adapter : Nat}
    {property : UserProperty} (known : s.SetsKnown adapter property) :
    (s.setProperty c adapter property).2.Right := by
  rw [setProperty]
  cases found : s.peerUser adapter with
  | none => exact right
  | some p =>
    dsimp only
    split_ifs with writable
    swap
    · exact right
    have own : (s.daemon.system.step (c.call (.userSet p.user property))).users p.user =
        property.set (s.daemon.system.users p.user) := Function.update_self ..
    refine right.change (List.mem_of_find?_eq_some found)
      (fun j other => Function.update_of_ne other ..) (fun _ mem => mem) fun stays => ?_
    rw [own]
    have mirrors := right.mirrors p (List.mem_of_find?_eq_some found) stays
    rcases known p found stays writable with keeps | ⟨unset, uncached⟩
    · have same := UserProperty.sameIdentity keeps (s.daemon.system.users p.user)
      have keep : ∀ {uid}, (s.daemon.system.users p.user).Mirrors uid s.daemon.system.files.passwd →
          (property.set (s.daemon.system.users p.user)).Mirrors uid s.daemon.system.files.passwd :=
        fun mirrors => mirrors.keep same fun pw mem _ => ⟨pw, mem, rfl, rfl⟩
      rw [same.uid]
      exact ⟨mirrors.imp_right keep, fun uid _ => keep⟩
    · refine ⟨Or.inl ?_, fun uid cached => absurd ⟨uid, cached⟩ uncached⟩
      rw [← show s.adapterUid p = gumUserInvalidUid from unset]
      cases property with
      | uid value => exact writable.elim
      | gid value => exact writable.elim
      | _ => rfl

/-- An addition that gets the lock meets no failing file operation, and does not fail between the
choice of a uid and the passwd entry. -/
def AddsKnown (s : UserService) (c : Context) (adapter : Nat) : Prop :=
  ∀ p, s.peerUser adapter = some p → p.deleteLater = false →
    (s.daemon.system.world (c.call (.userAdd p.user))).lockGranted = true →
      (s.daemon.system.world (c.call (.userAdd p.user))).Faultless ∧
        (s.daemon.system.users p.user).Settles c.env s.daemon.system.files

theorem handleAddUser_right {s : UserService} (right : s.Right) (c : Context) {adapter : Nat}
    (known : s.AddsKnown c adapter) : (s.handleAddUser c adapter).2.Right := by
  rw [handleAddUser]
  cases found : s.peerUser adapter with
  | none => exact right
  | some p =>
    have mem := List.mem_of_find?_eq_some found
    have op : (c.call (.userAdd p.user)).operation = .userAdd p.user := rfl
    obtain ⟨others, inserted⟩ := System.userAdd_keeps (s := s.daemon.system) op
    have mirrors := System.userAdd_mirrors (s := s.daemon.system) op
    have changed : { s with daemon := { s.daemon with
        system := s.daemon.system.step (c.call (.userAdd p.user)) } }.Right := by
      refine right.change mem others inserted fun stays => ?_
      obtain ⟨own, held⟩ := System.userAdd_settles op (known p found stays) (right.mirrors p mem stays)
      exact ⟨own, fun uid _ => held uid⟩
    dsimp only
    rw [GumdDaemon.addUser, if_pos (right.created p mem)]
    rw [System.step] at changed mirrors
    dsimp only
    generalize s.daemon.system.call (c.call (.userAdd p.user)) = result at *
    obtain ⟨added, system⟩ := result
    cases added with
    | false => exact changed
    | true =>
      obtain ⟨pw, own, -, held⟩ := mirrors rfl
      simp only [Bool.not_true, Bool.false_eq_true, if_false]
      split_ifs
      · exact changed.insert (u := (system.users p.user).pw.pwUid) mem fun _ => own ▸ held
      · exact changed

/-- A deletion that gets the lock meets no failing file operation, does not fail once the sessions of
the user have ended, and then no other adapter that is not going has the uid. -/
def DeletesAlone (s : UserService) (c : Context) (adapter : Nat) (remHomeDir : Bool) : Prop :=
  ∀ p, s.peerUser adapter = some p →
    let w := s.daemon.system.world (c.call (.userDelete p.user remHomeDir))
    let u := s.daemon.system.users p.user
    w.lockGranted = true → w.Faultless ∧ u.Ends c.env remHomeDir w.afterLock.process.euid w.files ∧
      ∀ name pent spent, u.Located w.afterLock.process.euid w.files name pent spent →
        GumdDaemonUser.terminateUser c.env.logind = true →
          ∀ q ∈ s.peerUsers, q.userAdapter ≠ adapter → q.deleteLater = false →
            s.adapterUid q ≠ s.adapterUid p

theorem handleDeleteUser_right {s : UserService} (right : s.Right) (c : Context) {adapter : Nat}
    {remHomeDir : Bool} (alone : s.DeletesAlone c adapter remHomeDir) :
    (s.handleDeleteUser c adapter remHomeDir).2.Right := by
  rw [handleDeleteUser]
  cases found : s.peerUser adapter with
  | none => exact right
  | some p =>
    have mem := List.mem_of_find?_eq_some found
    have number : p.userAdapter = adapter := by simpa using List.find?_some found
    have op : (c.call (.userDelete p.user remHomeDir)).operation = .userDelete p.user remHomeDir := rfl
    have same := (System.userDelete_keeps (s := s.daemon.system) op).1
    have ends := System.userDelete_ends (s := s.daemon.system) op fun granted =>
      ⟨(alone p found granted).1, (alone p found granted).2.1⟩
    dsimp only
    rw [GumdDaemon.deleteUser, if_pos (right.created p mem)]
    rw [System.step] at same ends
    dsimp only
    generalize s.daemon.system.call (c.call (.userDelete p.user remHomeDir)) = result at *
    obtain ⟨deleted, system⟩ := result
    rcases ends with ⟨rfl, passwd⟩ | ⟨rfl, granted, terminated, ⟨name, pent, spent, located⟩, kept⟩
    · exact right.keep (fun q _ _ => same q.user) fun q _ _ pw memPw _ => ⟨pw, passwd ▸ memPw, rfl, rfl⟩
    · have away := (alone p found granted).2.2 name pent spent located terminated
      subst number
      have marked := right.mark mem fun q memQ other stays shared =>
        away q memQ other stays (by rw [adapterUid, adapterUid, shared])
      refine marked.keep (fun q _ _ => same q.user) fun q memQ stays pw memPw own => ?_
      refine ⟨pw, kept pw memPw fun same' => ?_, rfl, rfl⟩
      obtain ⟨q₀, memQ₀, rfl⟩ := List.mem_map.mp memQ
      split_ifs at stays own with same
      exact away q₀ memQ₀ same stays (own.symm.trans same')

theorem handleUpdateUser_right {s : UserService} (right : s.Right) (c : Context) (adapter : Nat) :
    (s.handleUpdateUser c adapter).2.Right := by
  rw [handleUpdateUser]
  cases found : s.peerUser adapter with
  | none => exact right
  | some p =>
    obtain ⟨same, keys⟩ := System.userUpdate_keeps (s := s.daemon.system)
      (c := c.call (.userUpdate p.user)) rfl
    have updated : { s with daemon := { s.daemon with
        system := s.daemon.system.step (c.call (.userUpdate p.user)) } }.Right :=
      right.keep (fun q _ _ => same q.user) fun _ _ _ pw mem _ => exists_of_map_eq keys pw mem
    dsimp only
    rw [GumdDaemon.updateUser, if_pos (right.created p (List.mem_of_find?_eq_some found))]
    rw [System.step] at updated
    dsimp only
    generalize s.daemon.system.call (c.call (.userUpdate p.user)) = result at *
    obtain ⟨done, system⟩ := result
    cases done with
    | false => exact updated
    | true => exact updated

/-! ## Runs -/

theorem onDbusUserAdapterDisposed_right {s : UserService} (right : s.Right) (adapter : Nat) :
    (s.onDbusUserAdapterDisposed adapter).Right := by
  rw [onDbusUserAdapterDisposed]
  cases found : s.peerUser adapter with
  | none => exact right
  | some p =>
    exact right.release fun q mem same => right.distinct q mem p (List.mem_of_find?_eq_some found) same

theorem onBusNameLost_right {s : UserService} (right : s.Right) (peerName : Str) :
    (s.onBusNameLost peerName).Right :=
  right.releases fun p mem q memQ same => right.distinct q memQ p (List.mem_filter.mp mem).1 same

end UserService

/-- The calls after which the service still answers rightly. -/
def ServiceCall.KeepsRight (s : UserService) (c : ServiceCall) : Prop :=
  match c.operation with
  | .getUser sender uid => s.Serves sender uid
  | .getUserByName sender username => s.daemon.users gumUserInvalidUid = none ∧
      ∀ name pw, username = some name → s.daemon.system.files.getpwnam name = some pw →
        s.Serves sender pw.pwUid
  | .setProperty adapter property => s.SetsKnown adapter property
  | .addUser adapter => s.AddsKnown c.toContext adapter
  | .deleteUser adapter remHomeDir => s.DeletesAlone c.toContext adapter remHomeDir
  | _ => True

/-- An adapter that a call is answered with is the caller's and not going, and its object is the user
of the uid, or of the name, that the call asks for. -/
def ServiceCall.AnswersRight (s : UserService) (c : ServiceCall) : Prop :=
  match c.operation with
  | .getUser sender uid => ∀ adapter, (s.call c).1 = .path adapter →
      (s.step c).Hands adapter sender uid
  | .getUserByName sender username => ∀ adapter, (s.call c).1 = .path adapter →
      ∃ name pw, username = some name ∧ s.daemon.system.files.getpwnam name = some pw ∧
        (s.step c).Hands adapter sender pw.pwUid
  | _ => True

theorem UserService.right_step {s : UserService} {c : ServiceCall} (keeps : c.KeepsRight s)
    (right : s.Right) : c.AnswersRight s ∧ (s.step c).Right := by
  rw [ServiceCall.KeepsRight] at keeps
  rw [ServiceCall.AnswersRight, step, call]
  cases op : c.operation with
  | getUser sender uid =>
    rw [op] at keeps
    exact (handleGetUser_right right c.toContext keeps).symm
  | getUserByName sender username =>
    rw [op] at keeps
    exact (handleGetUserByName_right right c.toContext keeps.1 keeps.2).symm
  | createNewUser sender => exact ⟨trivial, handleCreateNewUser_right right c.toContext sender⟩
  | setProperty adapter property =>
    rw [op] at keeps
    exact ⟨trivial, setProperty_right right c.toContext keeps⟩
  | addUser adapter =>
    rw [op] at keeps
    exact ⟨trivial, handleAddUser_right right c.toContext keeps⟩
  | deleteUser adapter remHomeDir =>
    rw [op] at keeps
    exact ⟨trivial, handleDeleteUser_right right c.toContext keeps⟩
  | updateUser adapter => exact ⟨trivial, handleUpdateUser_right right c.toContext adapter⟩
  | dispose adapter => exact ⟨trivial, onDbusUserAdapterDisposed_right right adapter⟩
  | busNameLost peerName => exact ⟨trivial, onBusNameLost_right right peerName⟩

/-- From a service that has created no adapter, every run that keeps the service right answers
rightly. -/
theorem run_answersRight {calls : List ServiceCall} {s : System}
    (each : Each UserService.step (fun s c => c.KeepsRight s) (.new s) calls) :
    Each UserService.step (fun s c => c.AnswersRight s) (.new s) calls :=
  each.invariant (fun _ _ keeps right => UserService.right_step keeps right) (UserService.right_new s)

namespace Sample

def serve (operation : ServiceOperation) : ServiceCall where
  toContext := (ask .userNew).toContext
  operation := operation

/-- Two peers ask for a user, and one of them disappears. -/
theorem run_answersRight_alice :
    Each UserService.step (fun s c => c.AnswersRight s) (.new system)
      [serve (.getUser (str "1") 1000), serve (.updateUser 0),
        serve (.getUserByName (str "2") (some (str "alice"))), serve (.busNameLost (str "1")),
        serve (.getUser (str "2") 1000)] := by
  apply run_answersRight
  refine ⟨Or.inr ⟨fun _ pw found => ?_, ?_⟩, trivial, ⟨?_, fun name pw asked found => ?_⟩, trivial,
    Or.inl ⟨?_, ?_⟩, trivial⟩
  · obtain rfl : alice = pw := Option.some.inj (found ▸ rfl)
    decide
  · decide
  · decide
  · obtain rfl : str "alice" = name := Option.some.inj asked
    have number : Option.map (·.pwUid) (some pw) = some 1000 := by
      rw [← found]
      decide +kernel
    have uid : pw.pwUid = 1000 := Option.some.inj number
    rw [uid]
    refine Or.inr ⟨fun empty => absurd empty (by decide +kernel), by decide +kernel⟩
  · decide
  · decide +kernel

/-- The adapter of another peer still stands for a user who was deleted. -/
theorem run_not_answersRight : ¬Each UserService.step (fun s c => c.AnswersRight s) (.new system)
    [serve (.getUser (str "1") 1000), serve (.getUser (str "2") 1000),
      serve (.deleteUser 0 false), serve (.getUser (str "2") 1000)] := by
  rintro ⟨-, -, -, answered, -⟩
  obtain ⟨p, -, -, -, mirrors⟩ := answered 1 (by decide +kernel)
  obtain ⟨pw, mem, -⟩ := mirrors.entry
  revert pw
  decide +kernel

end Sample

end Gumd
