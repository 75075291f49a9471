import Gumd.UserRules

/-!
# Outcomes of adding a user

Every way an addition can end, with the entries it has written by then.
-/

namespace Gumd

open StateWp EntryLoop

/-! ## Entries of the passwd and shadow files -/

def Files.insertPasswd (f : Files) (new : Passwd) : Files :=
  { f with passwd := insertFirst (new.pwUid < ·.pwUid) new f.passwd }

def Files.appendShadow (f : Files) (new : Spwd) : Files := { f with shadow := f.shadow ++ [new] }

/-- A shadow entry of the name, left behind or written by hand. -/
def Files.HasShadow (f : Files) (name : Str) : Prop := ∃ e ∈ f.shadow, e.spNamp = name

def Files.setUserinfo (f : Files) (uid : UInt32) (info : Option Userinfo) : Files :=
  { f with userinfo := Function.update f.userinfo uid info }

/-- The user information files may differ. -/
structure Files.SameDb (f f' : Files) : Prop where
  passwd : f'.passwd = f.passwd
  shadow : f'.shadow = f.shadow
  group : f'.group = f.group
  gshadow : f'.gshadow = f.gshadow

theorem Files.SameDb.of_eq {f f' : Files} (same : f' = f) : f.SameDb f' := by
  rw [same]
  exact ⟨rfl, rfl, rfl, rfl⟩

namespace GumdDaemonUser

variable {s : St GumdDaemonUser}

theorem writesAs_updatePasswdFile (u : GumdDaemonUser) (op : GumOpType)
    (userData : Option Str) :
    WritesAs u (updatePasswdFile op userData)
      (passwdFile.rewrite (updatePasswdEntry u op userData)) := by
  rintro s rfl
  simp only [updatePasswdFile, wp_bind, wp_getSelf, wp_liftM]
  exact wp_mono (gumFileUpdate_spec _ _ _) fun ok w spec => ⟨trivial, spec⟩

theorem writesAs_updateShadowFile (u : GumdDaemonUser) (op : GumOpType)
    (userData : Option Str) :
    WritesAs u (updateShadowFile op userData)
      (shadowFile.rewrite (updateShadowEntry u op userData)) := by
  rintro s rfl
  simp only [updateShadowFile, wp_bind, wp_getSelf, wp_liftM]
  exact wp_mono (gumFileUpdate_spec _ _ _) fun ok w spec => ⟨trivial, spec⟩

/-- The rewrite of a user information file. -/
theorem wp_writeUserinfo (info : Option Userinfo) :
    wp (writeUserinfo info) (fun ok t => t.self = s.self ∧ s.world.Balanced t.world ∧
      (ok = false ∧ t.world.files = s.world.files ∧ s.world.faults.write ≠ .const none ∨
        ok = true ∧ t.world.files = s.world.files.setUserinfo s.self.pw.pwUid info)) s := by
  have balanced : ∀ files, s.world.Balanced { s.world with
      files := files, faults := { s.world.faults with write := s.world.faults.write.tail } } :=
    fun _ => ⟨id, id, fun writable => by simp [writable], rfl⟩
  simp only [writeUserinfo, wp_bind, wp_get, wp_ite, wp_set, wp_pure]
  refine ⟨fun faulty => ⟨trivial, balanced _, Or.inl ⟨trivial, trivial, fun writable => ?_⟩⟩,
    fun _ => ⟨trivial, balanced _, Or.inr ⟨trivial, rfl⟩⟩⟩
  simp [writable] at faulty

theorem sameDb_writeUserinfo {f f' : Files} {ok : Bool} {faulty : Prop} {uid : UInt32}
    {info : Option Userinfo}
    (written : ok = false ∧ f' = f ∧ faulty ∨ ok = true ∧ f' = f.setUserinfo uid info) :
    f.SameDb f' := by
  rcases written with ⟨-, rfl, -⟩ | ⟨-, rfl⟩ <;> exact ⟨rfl, rfl, rfl, rfl⟩

theorem wp_addUserinfo (config : GumConfig) :
    wp (addUserinfo config) (fun _ t => t.self = s.self ∧ s.world.Balanced t.world ∧
      s.world.files.SameDb t.world.files) s := by
  simp only [addUserinfo, ↓wp_guard, wp_pure, wp_bind, wp_getSelf]
  refine ⟨fun _ => ⟨trivial, .refl _, ⟨rfl, rfl, rfl, rfl⟩⟩, fun _ => ?_⟩
  refine wp_mono (wp_writeUserinfo _) ?_
  rintro ok t ⟨self, balanced, written⟩
  exact ⟨self, balanced, sameDb_writeUserinfo written⟩

/-! ## The primary group -/

/-- How `_set_group` can end: with the gid of the configured group, or of a new one. -/
inductive Grouped (calm : Prop) (u : GumdDaemonUser) (env : Env) (f : Files) :
    Option UInt32 → Files → Prop
  | reused {grp} :
      (gumConfigGetString env.config gumConfigGeneralUsrPrimaryGrpname).bind f.getgrnam =
        some grp →
      Grouped calm u env f (some grp.grGid) f
  | created {gid f'} :
      (gumConfigGetString env.config gumConfigGeneralUsrPrimaryGrpname).bind f.getgrnam = none →
      GumdDaemonGroup.Added calm (u.primaryGroup env.config) env u.pw.pwUid f gid f' →
      Grouped calm u env f gid f'

theorem Grouped.mono {calm calm' : Prop} {u : GumdDaemonUser} {env : Env} {f f' : Files}
    {gid : Option UInt32} (weaken : calm' → calm) (grouped : u.Grouped calm env f gid f') :
    u.Grouped calm' env f gid f' := by
  cases grouped with
  | reused found => exact .reused found
  | created missing added => exact .created missing (added.mono weaken)

/-- A new group changes the group and gshadow files. -/
theorem Grouped.frame {calm : Prop} {u : GumdDaemonUser} {env : Env} {f f' : Files}
    {gid : Option UInt32} (grouped : u.Grouped calm env f gid f') :
    f'.passwd = f.passwd ∧ f'.shadow = f.shadow := by
  cases grouped with
  | reused found => exact ⟨rfl, rfl⟩
  | created missing added => cases added <;> exact ⟨rfl, rfl⟩

theorem Grouped.hasShadow {calm : Prop} {u : GumdDaemonUser} {env : Env} {f f' : Files}
    {gid : Option UInt32} (grouped : u.Grouped calm env f gid f') (name : Str) :
    f'.HasShadow name ↔ f.HasShadow name := by
  rw [Files.HasShadow, grouped.frame.2, Files.HasShadow]

theorem wp_setGroup (readable : s.world.faults.read = .const true) (env : Env) :
    wp (setGroup env) (fun ok t => s.world.Balanced t.world ∧ ∃ gid, ok = gid.isSome ∧
      t.self = gid.elim s.self (setGidProperty · s.self) ∧
      Grouped s.world.Calm s.self env s.world.files gid t.world.files) s := by
  simp only [setGroup, wp_bind, wp_getSelf, wp_liftM, wp_gumFileGetgrnam readable]
  cases primary : (gumConfigGetString env.config gumConfigGeneralUsrPrimaryGrpname).bind
      s.world.files.getgrnam with
  | some grp =>
    simp only [wp_bind, wp_modifySelf, wp_pure]
    exact ⟨.refl _, some grp.grGid, rfl, rfl, .reused primary⟩
  | none =>
    simp only [wp_bind, wp_liftM, wp_runOn]
    refine wp_mono (GumdDaemonGroup.gumdDaemonGroupAdd_spec readable env _) ?_
    rintro gid t ⟨balanced, added⟩
    have outcome : Grouped s.world.Calm s.self env s.world.files gid
        t.world.files :=
      .created primary added
    cases gid with
    | none => exact ⟨balanced, none, rfl, rfl, outcome⟩
    | some gid => exact ⟨balanced, some gid, rfl, rfl, outcome⟩

/-! ## The default groups -/

/-- A run of additions of the user to groups. -/
inductive Joined (uid : UInt32) : Files → Files → Prop
  | done {f} : Joined uid f f
  | join {clear name r f f' f''} :
      GumdDaemonGroup.MemberAdded clear (gumdDaemonGroupNew.setGroupnameProperty (some name)) uid false
        f r f' →
      Joined uid f' f'' → Joined uid f f''

/-- A user who joins groups changes the group and gshadow files. -/
theorem Joined.frame {uid : UInt32} {f f' : Files} (joined : Joined uid f f') :
    f'.passwd = f.passwd ∧ f'.shadow = f.shadow := by
  induction joined with
  | done => exact ⟨rfl, rfl⟩
  | join first _ ih => exact ⟨ih.1.trans first.frame.1, ih.2.trans first.frame.2⟩

theorem wp_joinGroups {w : World} (readable : w.faults.read = .const true) (uid : UInt32) (added : Bool)
    (names : List Str) :
    wp (joinGroups uid added names) (fun _ t => w.Balanced t ∧ Joined uid w.files t.files) w := by
  induction names generalizing w added with
  | nil => exact ⟨.refl _, .done⟩
  | cons name rest ih =>
    rw [joinGroups, wp_bind, wp_runOn]
    refine wp_mono (GumdDaemonGroup.gumdDaemonGroupAddMember_spec readable uid false) ?_
    rintro r t ⟨balanced, first⟩
    refine wp_mono (ih (balanced.read readable) r) ?_
    rintro _ u ⟨balanced', later⟩
    exact ⟨balanced.trans balanced', .join first later⟩

theorem wp_setDefaultGroups (readable : s.world.faults.read = .const true) (env : Env) :
    wp (setDefaultGroups env) (fun _ t => t.self = s.self ∧ s.world.Balanced t.world ∧
      Joined s.self.pw.pwUid s.world.files t.world.files) s := by
  simp only [setDefaultGroups, wp_bind, wp_getSelf, wp_ite, wp_pure, wp_liftM]
  exact ⟨fun _ => ⟨trivial, .refl _, .done⟩, fun _ => wp_mono (wp_joinGroups readable _ _ _)
    fun _ t spec => ⟨trivial, spec⟩⟩

/-! ## Adding a user -/

/-- The outcome of `_create_home_dir`. -/
def homeDirError (env : Env) (u : GumdDaemonUser) : Option GError :=
  if u.usertype = .system then none
  else env.createHomeDir (ptr u.pw.pwDir) u.pw.pwUid u.pw.pwGid
    (gumConfigGetUint env.config gumConfigGeneralUmask gumUmask)

theorem wp_createHomeDir (env : Env) :
    wp (createHomeDir env) (fun ok t => ok = (s.self.homeDirError env).isNone ∧ t.self = s.self ∧
      s.world.Quiet t.world) s := by
  simp only [createHomeDir, wp_bind, wp_getSelf, wp_ite, wp_pure, wp_liftM, homeDirError]
  refine ⟨fun system => ⟨by simp [system], trivial, .refl _⟩, fun other => ?_⟩
  rw [if_neg other]
  cases env.createHomeDir _ _ _ _ with
  | none => exact ⟨rfl, trivial, .refl _⟩
  | some e => exact ⟨rfl, trivial, .error _ _⟩

/-- The steps before the first rewrite of an addition pass: the object has a user type, its name
is new, and a uid is free. -/
structure Prepared (u : GumdDaemonUser) (env : Env) (f : Files) (u' : GumdDaemonUser) : Prop where
  usertype : u.usertype ≠ .none
  uid : f.allocUid env (u.setMissingShell env.config) = some u'

/-- The object an addition writes once it has a group. -/
def complete (env : Env) (gid : UInt32) (u : GumdDaemonUser) : GumdDaemonUser :=
  (u.setGidProperty gid).withShadow env

/-- The entries an addition writes. -/
structure Writes (u : GumdDaemonUser) (env : Env) (gid : UInt32) (pw : Passwd) (sp : Spwd) :
    Prop where
  encrypted : (u.newPwdp env).isSome = true
  passwd : (u.complete env gid).pw.putpwent = some pw
  shadow : (u.complete env gid).shadow.putspent = some sp

/-- How an addition can end. -/
inductive UserAdded (calm : Prop) (u : GumdDaemonUser) (env : Env) (f : Files) :
    Option UInt32 → Files → Prop
  | refused : (calm → ∀ u', ¬u.Prepared env f u') → UserAdded calm u env f none f
  | noGroup {u' f₁} : u.Prepared env f u' → u'.Grouped calm env f none f₁ →
      UserAdded calm u env f none f₁
  | noSecret {u' gid f₁} : u.Prepared env f u' → u'.Grouped calm env f (some gid) f₁ →
      (calm → u'.newPwdp env = none) → UserAdded calm u env f none f₁
  | passwdOnly {u' gid f₁ pw sp} : u.Prepared env f u' →
      u'.Grouped calm env f (some gid) f₁ → u'.Writes env gid pw sp →
      (calm → f.HasShadow sp.spNamp) → UserAdded calm u env f none (f₁.insertPasswd pw)
  | homeless {u' gid f₁ f₂ f₃ pw sp} : u.Prepared env f u' →
      u'.Grouped calm env f (some gid) f₁ → u'.Writes env gid pw sp →
      ¬f.HasShadow sp.spNamp → ((f₁.insertPasswd pw).appendShadow sp).SameDb f₂ →
      Joined pw.pwUid f₂ f₃ → ((u'.complete env gid).homeDirError env).isSome →
      UserAdded calm u env f none f₃
  | added {u' gid f₁ f₂ f₃ pw sp} : u.Prepared env f u' →
      u'.Grouped calm env f (some gid) f₁ → u'.Writes env gid pw sp →
      ¬f.HasShadow sp.spNamp → ((f₁.insertPasswd pw).appendShadow sp).SameDb f₂ →
      Joined pw.pwUid f₂ f₃ → (u'.complete env gid).homeDirError env = none →
      UserAdded calm u env f (some pw.pwUid) f₃

section Writes

variable {u : GumdDaemonUser} {env : Env} {gid : UInt32} {pw : Passwd} {sp : Spwd}

/-- The rewrite of the passwd file inserts the entry. -/
theorem Writes.rewritePasswd (writes : u.Writes env gid pw sp) (f : Files) :
    passwdFile.rewrite (updatePasswdEntry (u.complete env gid) .add none) f =
      .ok (f.insertPasswd pw) := by
  have uid : (u.complete env gid).pw.pwUid = pw.pwUid := by
    obtain ⟨name, -, rfl⟩ := Option.map_eq_some_iff.mp writes.passwd
    rfl
  simp only [DbFile.rewrite, passwdFile, updatePasswdEntry_add, writes.passwd, Option.elim_some, uid]
  rfl

/-- The rewrite of the shadow file appends the entry, unless one of that name is there. -/
theorem Writes.rewriteShadow (writes : u.Writes env gid pw sp) (f : Files) :
    shadowFile.rewrite (updateShadowEntry (u.complete env gid) .add none) f =
      if (f.shadow.any fun e => e.spNamp = sp.spNamp) then
        .error ⟨.userAlreadyExists, "File write failure"⟩
      else .ok (f.appendShadow sp) := by
  have name : (u.complete env gid).shadow.spNamp = some sp.spNamp := by
    obtain ⟨name, named, rfl⟩ := Option.map_eq_some_iff.mp writes.shadow
    exact named
  simp only [DbFile.rewrite, shadowFile, updateShadowEntry_add, writes.shadow, Option.elim_some, name,
    Option.some.injEq, @eq_comm _ sp.spNamp]
  split_ifs <;> rfl

theorem Files.any_shadow {f : Files} {name : Str} :
    (f.shadow.any fun e => e.spNamp = name) = true ↔ f.HasShadow name := by
  simp [Files.HasShadow]

/-- The entries an addition writes exist once the object has a name and the secret is
encrypted. -/
theorem exists_writes (named : u.pw.pwName.isSome = true) (gid : UInt32)
    (encrypted : (u.newPwdp env).isSome = true) : ∃ pw sp, u.Writes env gid pw sp := by
  obtain ⟨name, named⟩ := Option.isSome_iff_exists.mp named
  have passwd : (u.complete env gid).pw.pwName = some name := named
  have shadow : (u.complete env gid).shadow.spNamp = some name.val := by
    change ptr u.pw.pwName = _
    rw [named, ptr_some]
  exact ⟨_, _, encrypted, Option.map_eq_some_iff.mpr ⟨_, passwd, rfl⟩,
    Option.map_eq_some_iff.mpr ⟨_, shadow, rfl⟩⟩

/-- The end of an addition, after the object is complete: the entries are written, the user
joins the default groups and gets a home directory. -/
theorem wp_addEntries (writes : u.Writes env gid pw sp) (self : s.self = u.complete env gid)
    {J : Files → Files → Prop} (joins : ∀ v : St GumdDaemonUser, v.self = u.complete env gid →
      s.world.Balanced v.world → wp (setDefaultGroups env) (fun _ v' => v'.self = v.self ∧
        v.world.Balanced v'.world ∧ J v.world.files v'.world.files) v)
    {t : St GumdDaemonUser} (balanced : t.world.Balanced s.world)
    {P : Option UInt32 → Files → Prop}
    (failed : ∀ f, (f = s.world.files ∧ t.world.faults.write ≠ .const none ∨
      f = s.world.files.insertPasswd pw ∧
        (t.world.faults.write = .const none → s.world.files.HasShadow sp.spNamp)) → P none f)
    (written : ¬s.world.files.HasShadow sp.spNamp → ∀ f₂ f₃,
      ((s.world.files.insertPasswd pw).appendShadow sp).SameDb f₂ → J f₂ f₃ →
      P (if ((u.complete env gid).homeDirError env).isSome then none else some pw.pwUid) f₃) :
    wp (updatePasswdFile .add none >>= fun ok => if !ok then unlockReturn none else
        updateShadowFile .add none >>= fun ok => if !ok then unlockReturn none else
        addUserinfo env.config >>= fun _ => setDefaultGroups env >>= fun _ =>
        createHomeDir env >>= fun ok => if !ok then unlockReturn none else
        getSelf >>= fun self => unlockReturn (some self.pw.pwUid))
      (fun r v => t.world.Released v.world ∧ P r v.world.files) s := by
  refine wp_writeBoth (writesAs_updatePasswdFile _ _ _) (writesAs_updateShadowFile _ _ _)
    (fun t₁ self₁ balanced₁ result => ?_) fun t₁ self₁ balanced₁ result => ?_
  all_goals
    rw [self] at result self₁
    generalize files : t₁.world.files = f' at result
  · refine unlockReturn_spec (balanced.trans balanced₁) (failed _ ?_)
    rw [files]
    cases result with
    | neither why =>
      refine Or.inl ⟨rfl, fun writable => ?_⟩
      obtain ⟨_, error⟩ := why (balanced.write writable)
      rw [writes.rewritePasswd] at error
      cases error
    | one first why =>
      rw [writes.rewritePasswd] at first
      obtain rfl := Except.ok.inj first
      refine Or.inr ⟨rfl, fun writable => ?_⟩
      obtain ⟨_, error⟩ := why (balanced.write writable)
      rw [writes.rewriteShadow] at error
      split_ifs at error with stale
      exact Files.any_shadow.mp stale
  · cases result with
    | both first second =>
    rw [writes.rewritePasswd] at first
    obtain rfl := Except.ok.inj first
    rw [writes.rewriteShadow] at second
    split_ifs at second with stale
    obtain rfl := Except.ok.inj second
    have uid : (u.complete env gid).pw.pwUid = pw.pwUid := by
      obtain ⟨name, -, rfl⟩ := Option.map_eq_some_iff.mp writes.passwd
      rfl
    rw [wp_bind]
    refine wp_mono (wp_addUserinfo _) ?_
    rintro _ t₂ ⟨self₂, balanced₂, same⟩
    rw [files] at same
    have balanced := (balanced.trans balanced₁).trans balanced₂
    rw [wp_bind]
    refine wp_mono (joins t₂ (self₂.trans self₁) (balanced₁.trans balanced₂)) ?_
    rintro _ t₃ ⟨self₃, balanced₃, joined⟩
    rw [wp_bind]
    refine wp_mono (wp_createHomeDir env) ?_
    rintro ok t₄ ⟨rfl, self₄, quiet₄⟩
    have balanced := (balanced.trans balanced₃).trans quiet₄.balanced
    have result := written (mt Files.any_shadow.mpr stale) _ _ same joined
    rw [self₃, self₂, self₁] at self₄ ⊢
    simp only [↓wp_guard, wp_bind, wp_getSelf, self₄, uid]
    refine ⟨fun homeless => unlockReturn_spec balanced ?_, fun home => unlockReturn_spec balanced ?_⟩
    · rw [quiet₄.files]
      rwa [if_pos (by simpa using homeless)] at result
    · rw [quiet₄.files]
      rwa [if_neg (by simpa using home)] at result

end Writes

/-- Every way `gumd_daemon_user_add` can end. -/
theorem gumdDaemonUserAdd_spec (readable : s.world.faults.read = .const true) (env : Env) :
    wp (gumdDaemonUserAdd env) (fun r t => s.world.Balanced t.world ∧
      UserAdded s.world.Calm s.self env
        s.world.files r t.world.files) s := by
  rw [gumdDaemonUserAdd, wp_bind, wp_getSelf, wp_ite]
  refine ⟨fun untyped => ?_, fun typed => ?_⟩
  · exact ⟨.of_same rfl rfl, .refused fun _ u' prepared => prepared.usertype untyped⟩
  rw [wp_bind, wp_modifySelf]
  refine @wp_locked _ _ _ _ (UserAdded s.world.Calm
    s.self env s.world.files) ⟨s.self.setMissingShell env.config, s.world⟩
    (fun denied t files => ?_) fun granted t self world => ?_
  · simp only [wp_liftM, wp_gumReturnWithError]
    exact ⟨.error _ _, .refused fun calm => absurd calm.granted (Bool.eq_false_iff.mp denied)⟩
  change t.world = s.world.afterLock at world
  have files : t.world.files = s.world.files := by rw [world, World.files_afterLock]
  have calm_of : s.world.Calm → t.world.faults.write = .const none := fun calm => by
    rw [world, World.write_afterLock, calm.write]
  have clear_of : s.world.Calm → t.world.faults.readShadow = .const true := fun calm => by
    rw [world, World.readShadow_afterLock, calm.readShadow]
  have readable₀ : t.world.faults.read = .const true := by rwa [world, World.read_afterLock]
  have held : t.world.process.lockCount ≠ 0 := by
    rw [world, World.lockCount_afterLock, if_pos granted]
    exact Nat.succ_ne_zero _
  rw [wp_bind]
  refine wp_mono (wp_setUid readable₀ env) ?_
  rintro ok t₁ ⟨rfl, self₁, quiet₁⟩
  rw [self, files] at self₁ ⊢
  rw [wp_guard]
  cases alloc : s.world.files.allocUid env (s.self.setMissingShell env.config) with
  | none =>
    refine ⟨fun _ => unlockReturn_spec quiet₁.balanced ?_, by simp⟩
    rw [quiet₁.files, files]
    exact .refused fun _ u' prepared => by simpa [alloc] using prepared.uid
  | some u' =>
    have prepared : s.self.Prepared env s.world.files u' := ⟨typed, alloc⟩
    replace self₁ := self₁ u' alloc
    refine ⟨by simp, fun _ => ?_⟩
    rw [wp_bind]
    refine wp_mono (wp_setGroup (quiet₁.balanced.read readable₀) env) ?_
    rintro ok t₂ ⟨balanced₂, gid, rfl, self₂, grouped⟩
    rw [self₁] at self₂ grouped
    rw [quiet₁.files, files] at grouped
    replace grouped := grouped.mono fun calm : s.world.Calm =>
      World.Calm.of_held (quiet₁.balanced.lockCount ▸ held)
        (quiet₁.balanced.readShadow (clear_of calm)) (quiet₁.balanced.write (calm_of calm))
    have balanced := quiet₁.balanced.trans balanced₂
    rw [wp_guard]
    cases gid with
    | none => exact ⟨fun _ => unlockReturn_spec balanced (.noGroup prepared grouped), by simp⟩
    | some gid =>
      refine ⟨by simp, fun _ => ?_⟩
      rw [wp_bind]
      refine wp_mono (wp_setShadowData env) ?_
      rintro ok t₃ ⟨rfl, self₃, quiet₃⟩
      rw [self₂] at self₃ ⊢
      have balanced := balanced.trans quiet₃.balanced
      rw [wp_guard]
      refine ⟨fun failed => unlockReturn_spec balanced ?_, fun encrypted => ?_⟩
      · rw [quiet₃.files]
        have unset : u'.newPwdp env = none :=
          Option.isNone_iff_eq_none.mp (Option.isSome_eq_false_iff.mp failed)
        exact .noSecret prepared grouped fun _ => unset
      obtain ⟨name, named, -⟩ := Files.allocUid_some prepared.uid
      have isSome : u'.pw.pwName.isSome = true := Option.isSome_iff_exists.mpr ⟨name, named⟩
      obtain ⟨pw, sp, writes⟩ := exists_writes isSome gid encrypted
      have uid : (u'.complete env gid).pw.pwUid = pw.pwUid := by
        obtain ⟨name, -, rfl⟩ := Option.map_eq_some_iff.mp writes.passwd
        rfl
      refine @wp_addEntries _ _ _ _ _ _ writes (self₃ encrypted) (Joined pw.pwUid)
        (fun v self later => ?_) _ balanced _ ?_ ?_
      · rw [← uid, ← self]
        exact wp_setDefaultGroups ((balanced.trans later).read readable₀) env
      · rintro f (⟨rfl, faulty⟩ | ⟨rfl, stale⟩)
        · rw [quiet₃.files]
          exact .noSecret prepared grouped fun calm => absurd (calm_of calm) faulty
        · rw [quiet₃.files] at stale ⊢
          exact .passwdOnly prepared grouped writes fun calm =>
            (grouped.hasShadow _).mp (stale (calm_of calm))
      · intro fresh f₂ f₃ same joined
        rw [quiet₃.files] at fresh same
        rw [grouped.hasShadow] at fresh
        split_ifs with homeless
        · exact .homeless prepared grouped writes fresh same joined homeless
        · exact .added prepared grouped writes fresh same joined (by simpa using homeless)

/-- The entries of a new user are found by name and uid. -/
structure Written (f f' : Files) (pw : Passwd) (sp : Spwd) : Prop where
  passwd : f'.passwd = insertFirst (pw.pwUid < ·.pwUid) pw f.passwd
  shadow : f'.shadow = f.shadow ++ [sp]
  freshUid : f.getpwuid pw.pwUid = none
  byUid : f'.getpwuid pw.pwUid = some pw
  byName : f'.getpwnam pw.pwName = some pw
  inShadow : f'.getspnam pw.pwName = some sp

theorem Writes.written {calm : Prop} {u u' : GumdDaemonUser} {env : Env} {f f₁ f₂ f₃ : Files}
    {gid : UInt32} {pw : Passwd} {sp : Spwd} (writes : u'.Writes env gid pw sp)
    (prepared : u.Prepared env f u') (grouped : u'.Grouped calm env f (some gid) f₁)
    (fresh : ¬f.HasShadow sp.spNamp) (same : ((f₁.insertPasswd pw).appendShadow sp).SameDb f₂)
    (joined : Joined pw.pwUid f₂ f₃) : Written f f₃ pw sp := by
  obtain ⟨name, named, freshName, freshUid⟩ := Files.allocUid_some prepared.uid
  have keys : pw.pwName = name.val ∧ pw.pwUid = u'.pw.pwUid := by
    obtain ⟨name', named', rfl⟩ := Option.map_eq_some_iff.mp writes.passwd
    change u'.pw.pwName = some name' at named'
    obtain rfl := Option.some.inj (named.symm.trans named')
    exact ⟨rfl, rfl⟩
  have shadowName : sp.spNamp = name.val := by
    obtain ⟨spName, spNamed, rfl⟩ := Option.map_eq_some_iff.mp writes.shadow
    change ptr u'.pw.pwName = some spName at spNamed
    rw [named, ptr_some] at spNamed
    exact (Option.some.inj spNamed).symm
  have passwd : f₃.passwd = insertFirst (pw.pwUid < ·.pwUid) pw f.passwd := by
    rw [joined.frame.1, same.passwd, ← grouped.frame.1]
    rfl
  have shadow : f₃.shadow = f.shadow ++ [sp] := by
    rw [joined.frame.2, same.shadow, ← grouped.frame.2]
    rfl
  rw [← keys.1] at freshName
  rw [← keys.2] at freshUid
  refine ⟨passwd, shadow, freshUid, ?_, ?_, ?_⟩
  · rw [Files.getpwuid, passwd]
    exact find?_insertFirst freshUid (beq_self_eq_true _)
  · rw [Files.getpwnam, passwd]
    exact find?_insertFirst freshName (beq_self_eq_true _)
  · have absent : f.shadow.find? (·.spNamp == pw.pwName) = none := by
      rw [List.find?_eq_none]
      intro e mem same
      exact fresh ⟨e, mem, by rw [shadowName, ← keys.1]; exact eq_of_beq same⟩
    rw [Files.getspnam, shadow, List.find?_append, absent]
    simp [shadowName, keys.1]

theorem UserAdded.written {calm : Prop} {u : GumdDaemonUser} {env : Env} {f f' : Files} {uid : UInt32}
    (added : u.UserAdded calm env f (some uid) f') : ∃ u' gid pw sp, u.Prepared env f u' ∧
      u'.Writes env gid pw sp ∧ pw.pwUid = uid ∧ Written f f' pw sp := by
  cases added with
  | added prepared grouped writes fresh same joined home =>
    exact ⟨_, _, _, _, prepared, writes, rfl, writes.written prepared grouped fresh same joined⟩

end GumdDaemonUser

end Gumd
