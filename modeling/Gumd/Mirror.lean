import Gumd.UserAdapter
import Gumd.Lib.Runs
import Gumd.UserMerge
import Gumd.AdditionSteps
import Gumd.Atomicity

/-!
# The D-Bus object mirrors the user

A client sees the properties of the skeleton.  They are those of the user as long as the user takes
what clients write; whatever the daemon does to the user shows once the notifications are delivered.
-/

namespace Gumd

open StateWp EntryLoop Binding

/-! ## The setters -/

section Setters

variable {validate : Option Str → Except GError Unit}

theorem changesString_iff {value old : Option Str} :
    changesString validate value old = true ↔ value ≠ old ∧ validate value = .ok () := by
  simp [changesString]

/-- A setter that does not notify has kept the string. -/
theorem setStringProperty_of_quiet [DecidablePred fun s => validate (some s) = .ok ()]
    {value : Option Str} {old : Option { s : Str // validate (some s) = .ok () }}
    (quiet : changesString validate value (ptr old) = false) : setStringProperty value old = old := by
  rcases setStringProperty_eq value old with ⟨s, rfl, result⟩ | ⟨-, result⟩
  · by_cases same : some s.val = ptr old
    · rw [same, setStringProperty_ptr]
    · rw [changesString_iff.mpr ⟨same, s.property⟩] at quiet
      cases quiet
  · exact result

theorem setGecosText_of_quiet {field : GecosField} {value : Option Str} {gecos : Option Gecos}
    (quiet : changesString gumValidateDbStringEntry value
      (gumStringUtilsGetString (ptr gecos) comma field.index) = false) :
    setGecosText field value gecos = gecos := by
  cases value with
  | none =>
    rw [setGecosText]
    split_ifs <;> rfl
  | some s =>
    rw [setGecosText]
    split_ifs with differs accepted
    · have changed : some s ≠ gumStringUtilsGetString (ptr gecos) comma field.index := by
        simpa using differs
      rw [changesString_iff.mpr ⟨changed, accepted⟩] at quiet
      cases quiet
    · rfl
    · rfl

end Setters

section StringProperty

variable {p : Str → Prop} [DecidablePred p]

/-- A string that is written is read back exactly if it was there before or is accepted. -/
theorem ptr_setStringProperty_eq_iff {value : Option Str} {old : Option (Subtype p)} :
    ptr (setStringProperty value old) = value ↔ ptr old = value ∨ ∃ s, value = some s ∧ p s := by
  rcases setStringProperty_eq value old with ⟨s, rfl, result⟩ | ⟨rejected, result⟩
  · rw [result, ptr_some]
    exact iff_of_true rfl (Or.inr ⟨s.val, rfl, s.property⟩)
  · rw [result]
    constructor
    · exact Or.inl
    · rintro (same | ⟨s, given, accepted⟩)
      · exact same
      · exact absurd accepted (rejected s given)

end StringProperty

/-- A text that is written to the gecos is read back exactly if it was there before or is
accepted. -/
theorem getString_setGecosText_eq_iff (field : GecosField) {value : Option Str}
    {gecos : Option Gecos} :
    gumStringUtilsGetString (ptr (setGecosText field value gecos)) comma field.index = value ↔
      gumStringUtilsGetString (ptr gecos) comma field.index = value ∨
        gumValidateDbStringEntry value = .ok () := by
  cases value with
  | none =>
    have kept : setGecosText field none gecos = gecos := by
      rw [setGecosText]
      split_ifs <;> rfl
    rw [kept]
    exact ⟨Or.inl, fun taken => taken.resolve_right fun given => by cases given⟩
  | some s =>
    by_cases accepted : gumValidateDbStringEntry (some s) = .ok ()
    · refine iff_of_true ?_ (Or.inr accepted)
      have text := gecosText_setGecosText field gecos accepted field
      rw [if_pos rfl] at text
      cases written : setGecosText field (some s) gecos with
      | some g =>
        rw [written] at text
        rw [ptr_some, getString_gecos, ← ptr_some, text]
      | none =>
        -- an accepted string is inserted, also into a missing gecos
        rw [setGecosText, dif_pos accepted] at written
        split_ifs at written with differs
        rw [written] at differs
        exact absurd differs (by simp [gumStringUtilsGetString])
    · have kept : setGecosText field (some s) gecos = gecos := by
        rw [setGecosText]
        simp only [accepted, dite_false, ite_self]
      rw [kept]
      exact ⟨Or.inl, fun taken => taken.resolve_right accepted⟩

/-- A user type that is written is read back exactly if it was there before or is one. -/
theorem usertype_setGecosUsertype_eq_iff {value : UInt32} {gecos : Option Gecos} :
    (getUsertypeFromGecos (ptr (setGecosUsertype value gecos))).value = value ↔
      (getUsertypeFromGecos (ptr gecos)).value = value ∨
        ∃ type : GumUserType, type ≠ .none ∧ value = type.value := by
  constructor
  · intro taken
    by_cases untyped : getUsertypeFromGecos (ptr (setGecosUsertype value gecos)) = .none
    · -- the type that is none is not written
      rw [untyped] at taken
      subst taken
      rw [getUsertypeFromGecos_setGecosUsertype, if_pos rfl] at untyped
      exact Or.inl (congrArg _ untyped)
    · exact Or.inr ⟨_, untyped, taken.symm⟩
  · rintro (same | ⟨type, typed, rfl⟩)
    · have kept : setGecosUsertype value gecos = gecos := by
        rw [setGecosUsertype, same]
        simp
      rw [kept, same]
    · rw [getUsertypeFromGecos_setGecosUsertype, if_neg typed]

theorem accepted_iff_exists {validate : Option Str → Except GError Unit}
    (refuses : validate none ≠ .ok ()) {value : Option Str} :
    (∃ s, value = some s ∧ validate (some s) = .ok ()) ↔ validate value = .ok () := by
  constructor
  · rintro ⟨s, rfl, accepted⟩
    exact accepted
  · intro accepted
    cases value with
    | none => exact absurd accepted refuses
    | some s => exact ⟨s, rfl, accepted⟩

/-- A string property is read back exactly if it was there before or its validator accepts it. -/
theorem ptr_validated_eq_iff {validate : Option Str → Except GError Unit}
    (refuses : validate none ≠ .ok ()) [DecidablePred fun s => validate (some s) = .ok ()]
    {value : Option Str} {old : Option { s : Str // validate (some s) = .ok () }} :
    ptr (setStringProperty value old) = value ↔ ptr old = value ∨ validate value = .ok () := by
  rw [ptr_setStringProperty_eq_iff, accepted_iff_exists refuses]

namespace GumdDaemonUser

/-- The setters read back what they take, and what was there before. -/
theorem getProperty_write_eq_iff (user : GumdDaemonUser) (name : UserPropertyName)
    (value : name.Value) : ((name.write value).set user).getProperty name = value ↔
      user.getProperty name = value ∨ name.Takes value := by
  cases name with
  | uid => exact iff_of_true rfl (Or.inr trivial)
  | gid => exact iff_of_true rfl (Or.inr trivial)
  | usertype => exact usertype_setGecosUsertype_eq_iff
  | username => exact ptr_validated_eq_iff (by decide)
  | secret => exact ptr_validated_eq_iff (by decide)
  | nickname => exact ptr_validated_eq_iff (by decide)
  | realname => exact getString_setGecosText_eq_iff .realname
  | office => exact getString_setGecosText_eq_iff .office
  | officephone => exact getString_setGecosText_eq_iff .officephone
  | homephone => exact getString_setGecosText_eq_iff .homephone
  | homedir => exact ptr_validated_eq_iff (by decide)
  | shell => exact ptr_validated_eq_iff (by decide)
  | icon => exact ptr_validated_eq_iff (by decide)

/-- A setter that does not notify has changed nothing. -/
theorem set_of_quiet {user : GumdDaemonUser} {property : UserProperty}
    (quiet : property.notifies user = false) : property.set user = user := by
  cases property with
  | uid value =>
    obtain rfl : user.pw.pwUid = value := by simpa [UserProperty.notifies] using quiet
    rfl
  | gid value =>
    obtain rfl : user.pw.pwGid = value := by simpa [UserProperty.notifies] using quiet
    rfl
  | usertype value =>
    have kept : setGecosUsertype value user.pw.pwGecos = user.pw.pwGecos := by
      have same := of_decide_eq_false quiet
      rw [not_and, not_not] at same
      rw [setGecosUsertype]
      split_ifs with valid differs
      · exact absurd (same valid) differs
      · rfl
      · rfl
    rw [UserProperty.set, setUsertypeProperty, kept]
  | username value => rw [UserProperty.set, setUsernameProperty, setStringProperty_of_quiet quiet]
  | secret value => rw [UserProperty.set, setSecretProperty, setStringProperty_of_quiet quiet]
  | nickname value => rw [UserProperty.set, setNicknameProperty, setStringProperty_of_quiet quiet]
  | realname value =>
    rw [UserProperty.set, setRealnameProperty, setGecosProperty, setGecosText_of_quiet quiet]
  | office value =>
    rw [UserProperty.set, setOfficeProperty, setGecosProperty, setGecosText_of_quiet quiet]
  | officephone value =>
    rw [UserProperty.set, setOfficephoneProperty, setGecosProperty, setGecosText_of_quiet quiet]
  | homephone value =>
    rw [UserProperty.set, setHomephoneProperty, setGecosProperty, setGecosText_of_quiet quiet]
  | homedir value => rw [UserProperty.set, setHomedirProperty, setStringProperty_of_quiet quiet]
  | shell value => rw [UserProperty.set, setShellProperty, setStringProperty_of_quiet quiet]
  | icon value => rw [UserProperty.set, setIconProperty, setStringProperty_of_quiet quiet]

/-- A string that is rejected is not notified. -/
theorem quiet_of_rejected {validate : Option Str → Except GError Unit} {value old : Option Str}
    (rejected : ¬validate value = .ok ()) : changesString validate value old = false :=
  Bool.eq_false_iff.mpr fun changes => rejected (changesString_iff.mp changes).2

/-- A rejected string leaves the user as it was. -/
theorem write_of_rejected (user : GumdDaemonUser) {name : UserPropertyName} {value : name.Value}
    (text : name ≠ .usertype) (rejected : ¬name.Takes value) :
    (name.write value).set user = user := by
  apply set_of_quiet
  cases name with
  | uid => exact absurd trivial rejected
  | gid => exact absurd trivial rejected
  | usertype => exact absurd rfl text
  | _ => exact quiet_of_rejected rejected

/-- A setter changes no other property, except that the first text of a gecos makes the others
empty. -/
theorem onBus_write_other (user : GumdDaemonUser) {name other : UserPropertyName}
    (value : name.Value) (differs : other ≠ name) :
    other.OnBus (((name.write value).set user).getProperty other) (user.getProperty other) := by
  have texts : ∀ {field : GecosField} (value : Option Str) {other : GecosField}, other ≠ field →
      ((user.setGecosProperty field value).gecosProperty other).getD [] =
        (user.gecosProperty other).getD [] := fun value _ apart =>
    gecosText_setGecosText_other apart value user.pw.pwGecos
  have types : ∀ {field : GecosField} (value : Option Str), field ≠ .usertype →
      (user.setGecosProperty field value).usertype.value = user.usertype.value :=
    fun value text => congrArg _ (getUsertypeFromGecos_setGecosText text value user.pw.pwGecos)
  have typed : ∀ (value : UInt32) {other : GecosField}, other ≠ .usertype →
      ((user.setUsertypeProperty value).gecosProperty other).getD [] =
        (user.gecosProperty other).getD [] := fun value _ text =>
    gecosText_setGecosUsertype text value user.pw.pwGecos
  cases name with
  | usertype =>
    cases other with
    | usertype => exact absurd rfl differs
    | realname => exact typed value (by decide)
    | office => exact typed value (by decide)
    | officephone => exact typed value (by decide)
    | homephone => exact typed value (by decide)
    | _ => rfl
  | realname =>
    cases other with
    | usertype => exact types value (by decide)
    | realname => exact absurd rfl differs
    | office => exact texts value (by decide)
    | officephone => exact texts value (by decide)
    | homephone => exact texts value (by decide)
    | _ => rfl
  | office =>
    cases other with
    | usertype => exact types value (by decide)
    | realname => exact texts value (by decide)
    | office => exact absurd rfl differs
    | officephone => exact texts value (by decide)
    | homephone => exact texts value (by decide)
    | _ => rfl
  | officephone =>
    cases other with
    | usertype => exact types value (by decide)
    | realname => exact texts value (by decide)
    | office => exact texts value (by decide)
    | officephone => exact absurd rfl differs
    | homephone => exact texts value (by decide)
    | _ => rfl
  | homephone =>
    cases other with
    | usertype => exact types value (by decide)
    | realname => exact texts value (by decide)
    | office => exact texts value (by decide)
    | officephone => exact texts value (by decide)
    | homephone => exact absurd rfl differs
    | _ => rfl
  | _ => cases other <;> first | rfl | exact absurd rfl differs

/-- A setter changes no other property of a user that has a gecos. -/
theorem getProperty_write_other {user : GumdDaemonUser} (given : user.pw.pwGecos.isSome = true)
    {name other : UserPropertyName} (value : name.Value) (differs : other ≠ name)
    (kept : ((name.write value).set user).pw.pwGecos.isSome = true) :
    ((name.write value).set user).getProperty other = user.getProperty other := by
  have onBus := onBus_write_other user value differs
  have texts : ∀ field, (((name.write value).set user).gecosProperty field).getD [] =
      (user.gecosProperty field).getD [] →
        ((name.write value).set user).gecosProperty field = user.gecosProperty field := by
    intro field same
    obtain ⟨old, given⟩ := Option.isSome_iff_exists.mp given
    obtain ⟨new, kept⟩ := Option.isSome_iff_exists.mp kept
    rw [gecosProperty, gecosProperty, kept, given] at same ⊢
    rw [ptr_some, ptr_some, getString_gecos, getString_gecos] at same ⊢
    exact congrArg some same
  cases other with
  | usertype => exact onBus
  | realname => exact texts .realname onBus
  | office => exact texts .office onBus
  | officephone => exact texts .officephone onBus
  | homephone => exact texts .homephone onBus
  | _ => cases name <;> first | rfl | exact absurd rfl differs

/-- A gecos is never taken away. -/
theorem isSome_gecos_write {user : GumdDaemonUser} (given : user.pw.pwGecos.isSome = true)
    (name : UserPropertyName) (value : name.Value) :
    ((name.write value).set user).pw.pwGecos.isSome = true := by
  have texts : ∀ field value, (setGecosText field value user.pw.pwGecos).isSome = true := by
    intro field value
    cases value with
    | none =>
      rw [setGecosText]
      split_ifs <;> exact given
    | some s =>
      rw [setGecosText]
      split_ifs
      · rfl
      · exact given
      · exact given
  cases name with
  | usertype =>
    change (setGecosUsertype value user.pw.pwGecos).isSome = true
    rw [setGecosUsertype]
    split_ifs with valid differs
    · obtain ⟨text, known⟩ := exists_gumUserTypeToString valid.1 valid.2
      split
      · rename_i unknown
        rw [known] at unknown
        cases unknown
      · rfl
    · exact given
    · exact given
  | realname => exact texts .realname value
  | office => exact texts .office value
  | officephone => exact texts .officephone value
  | homephone => exact texts .homephone value
  | _ => exact given

end GumdDaemonUser

/-! ## The laws of the properties -/

theorem onBus_equivalence (name : UserPropertyName) : Equivalence name.OnBus := by
  cases name <;> exact ⟨fun _ => rfl, fun same => same.symm, fun first second => first.trans second⟩

/-- A value that is written shows exactly if it showed before or is taken. -/
theorem onBus_write_iff (user : GumdDaemonUser) (name : UserPropertyName) (value : name.Value) :
    name.OnBus value (((name.write value).set user).getProperty name) ↔
      name.OnBus value (user.getProperty name) ∨ name.Takes value := by
  have exactly := user.getProperty_write_eq_iff name value
  by_cases taken : name.Takes value
  · rw [exactly.mpr (Or.inr taken)]
    exact iff_of_true ((onBus_equivalence name).refl value) (Or.inr taken)
  · by_cases text : name = .usertype
    · subst text
      constructor
      · exact fun shown => (exactly.mp shown.symm).imp Eq.symm id
      · exact fun shown => (exactly.mpr (shown.imp Eq.symm id)).symm
    · rw [GumdDaemonUser.write_of_rejected user text taken]
      exact ⟨Or.inl, fun shown => shown.resolve_right taken⟩

/-- What clients see of the two objects. -/
theorem lawful_onBus :
    Lawful dbusProperties userProperties UserPropertyName.OnBus fun _ => True where
  front _ _ _ := Function.update_self _ _ _
  frontOther _ _ _ _ differs := Function.update_of_ne differs _ _
  equivalence := onBus_equivalence
  written user name value shown := (onBus_write_iff user name value).mpr (Or.inl shown)
  others user _ value _ _ differs := user.onBus_write_other value differs
  good _ _ _ _ := trivial

/-- The very values, of a user that has a gecos. -/
theorem lawful_exact :
    Lawful dbusProperties userProperties (fun _ a b => a = b) fun user =>
      user.pw.pwGecos.isSome = true where
  front _ _ _ := Function.update_self _ _ _
  frontOther _ _ _ _ differs := Function.update_of_ne differs _ _
  equivalence _ := ⟨fun _ => rfl, fun same => same.symm, fun first second => first.trans second⟩
  written user name value same :=
    ((user.getProperty_write_eq_iff name value).mpr (Or.inl same.symm)).symm
  others _ name value _ given differs :=
    GumdDaemonUser.getProperty_write_other given value differs
      (GumdDaemonUser.isSome_gecos_write given name value)
  good _ name value given := GumdDaemonUser.isSome_gecos_write given name value

/-! ## What the daemon does to a user -/

theorem UserProperty.exists_write (property : UserProperty) :
    ∃ value, property.name.write value = property := by
  cases property <;> exact ⟨_, rfl⟩

/-- Every change of the daemon notifies the property it changes. -/
theorem notified_change {same : ∀ name : UserPropertyName, name.Value → name.Value → Prop}
    {Good : GumdDaemonUser → Prop} (lawful : Lawful dbusProperties userProperties same Good)
    (gecos : ∀ {u v : GumdDaemonUser}, v.pw.pwGecos = u.pw.pwGecos → Good u → Good v)
    (write : ObjectWrite) : write.change.Notified userProperties same Good := by
  cases write with
  | set property =>
    obtain ⟨value, written⟩ := property.exists_write
    have applied : ∀ user, (ObjectWrite.set property).change.apply user =
        userProperties.set user property.name value := by
      intro user
      change property.set user = (property.name.write value).set user
      rw [written]
    refine ⟨fun user other good unnotified => ?_, fun user good => ?_⟩
    · cases notifies : property.notifies user with
      | false =>
        have kept : (ObjectWrite.set property).change.apply user = user :=
          GumdDaemonUser.set_of_quiet notifies
        rw [kept]
        exact (lawful.equivalence other).refl _
      | true =>
        rw [applied]
        refine lawful.others user _ value other good fun own => unnotified ?_
        change (if property.notifies user then some property.name else none) = some other
        rw [notifies, if_pos rfl, own]
    · rw [applied]
      exact lawful.good user _ value good
  | renewSecret =>
    refine ⟨fun user other _ unnotified => ?_, fun user good => @gecos user _ rfl good⟩
    have kept : userProperties.get (ObjectWrite.renewSecret.change.apply user) other =
        userProperties.get user other := by
      cases other with
      | secret => exact absurd rfl unnotified
      | _ => rfl
    rw [kept]
    exact (lawful.equivalence other).refl _
  | setShadow shadow =>
    refine ⟨fun user other _ _ => ?_, fun user good => @gecos user _ rfl good⟩
    have kept : userProperties.get ((ObjectWrite.setShadow shadow).change.apply user) other =
        userProperties.get user other := by
      cases other <;> rfl
    rw [kept]
    exact (lawful.equivalence other).refl _

namespace GumdDaemonUser

/-- The daemon's writes lead from one object to the other. -/
def WrittenTo (user done : GumdDaemonUser) : Prop := ∃ writes, writeObject user writes = done

theorem WrittenTo.refl (user : GumdDaemonUser) : user.WrittenTo user := ⟨[], rfl⟩

theorem WrittenTo.trans {u v w : GumdDaemonUser} (first : u.WrittenTo v) (second : v.WrittenTo w) :
    u.WrittenTo w := by
  obtain ⟨writes, rfl⟩ := first
  obtain ⟨more, rfl⟩ := second
  exact ⟨writes ++ more, List.foldl_append⟩

theorem writtenTo_set (property : UserProperty) (user : GumdDaemonUser) :
    user.WrittenTo (property.set user) := ⟨[.set property], rfl⟩

theorem writtenTo_shadow (shadow : SpwdRecord) (user : GumdDaemonUser) :
    user.WrittenTo { user with shadow := shadow } := ⟨[.setShadow shadow], rfl⟩

theorem writtenTo_setGecosProperty {field : GecosField} (text : field ≠ .usertype)
    (value : Option Str) (user : GumdDaemonUser) :
    user.WrittenTo (user.setGecosProperty field value) := by
  cases field with
  | realname => exact writtenTo_set (.realname value) user
  | office => exact writtenTo_set (.office value) user
  | officephone => exact writtenTo_set (.officephone value) user
  | homephone => exact writtenTo_set (.homephone value) user
  | usertype => exact absurd rfl text

theorem writtenTo_setMissingRealname (user : GumdDaemonUser) :
    user.WrittenTo user.setMissingRealname := by
  rw [setMissingRealname]
  split_ifs
  · exact writtenTo_set (.realname _) user
  · exact .refl user

theorem writtenTo_setMissingShell (config : GumConfig) (user : GumdDaemonUser) :
    user.WrittenTo (user.setMissingShell config) := by
  rw [setMissingShell]
  cases user.pw.pwShell.isNone with
  | true => exact writtenTo_set (.shell _) user
  | false => exact .refl user

theorem writtenTo_updateGecosField (src : Passwd) (field : GecosField) (user : GumdDaemonUser) :
    user.WrittenTo (user.updateGecosField src field) := by
  by_cases text : field = .usertype
  · subst text
    rw [updateGecosField, mergeGecosField]
    split
    · exact .refl user
    · exact writtenTo_set (.usertype _) user
  · rw [updateGecosField, mergeGecosField]
    · split
      · exact .refl user
      · exact writtenTo_setGecosProperty text _ user
    · exact text

/-- The secret is replaced by the marker only when it could be encrypted. -/
theorem writtenTo_withSecret (env : Env) (user : GumdDaemonUser) :
    user.WrittenTo (user.withSecret env) := by
  have shadow := writtenTo_shadow { user.shadow with spPwdp := user.newPwdp env } user
  refine shadow.trans ?_
  rw [withSecret]
  split_ifs with encrypted
  · refine ⟨[.renewSecret], ?_⟩
    change setSecretProperty (some (str "x")) _ = _
    rw [setSecretProperty_marker]
  · exact .refl _

theorem writtenTo_mergeEntries (pw : Passwd) (shadow : Spwd) (user : GumdDaemonUser) :
    user.WrittenTo (user.mergeEntries pw shadow) := by
  rw [mergeEntries]
  have shadowed := writtenTo_shadow (copyShadowStruct shadow true user.shadow) user
  have keyed := ((((shadowed.trans (writtenTo_set (.username (some pw.pwName)) _)).trans
    (writtenTo_set (.uid pw.pwUid) _)).trans (writtenTo_set (.gid pw.pwGid) _)).trans
      (writtenTo_set (.homedir (some pw.pwDir)) _))
  have merged := (keyed.trans (writtenTo_updateGecosField pw .realname _)).trans
    (writtenTo_updateGecosField pw .office _)
  exact ((merged.trans (writtenTo_updateGecosField pw .officephone _)).trans
    (writtenTo_updateGecosField pw .homephone _)).trans
      (writtenTo_updateGecosField pw .usertype _)

theorem writtenTo_updated (env : Env) (pw : Passwd) (sp : Spwd) (user : GumdDaemonUser) :
    user.WrittenTo (user.updated env pw sp) := by
  have merged := writtenTo_mergeEntries pw sp user
  rw [updated]
  split_ifs
  · exact merged.trans (writtenTo_withSecret env _)
  · exact merged.trans (writtenTo_set (.secret (some pw.pwPasswd)) _)

/-- An update works on the object by writes. -/
theorem gumdDaemonUserUpdate_writtenTo (env : Env) (s : St GumdDaemonUser) :
    wp (gumdDaemonUserUpdate env) (fun _ t => s.self.WrittenTo t.self) s := by
  refine wp_mono (gumdDaemonUserUpdate_writes env s) ?_
  intro r t writes
  generalize t.world.files = f, t.self = u at writes ⊢
  cases writes with
  | nothing => exact .refl s.self
  | icon => exact writtenTo_updated env _ _ s.self
  | passwdOnly => exact writtenTo_updated env _ _ s.self
  | both => exact writtenTo_updated env _ _ s.self

/-! ### An addition -/

/-- Every change of an addition is a write. -/
theorem AdditionStep.writtenTo {env : Env} {u v : GumdDaemonUser} (step : AdditionStep env u v) :
    u.WrittenTo v := by
  cases step with
  | shell => exact writtenTo_setMissingShell env.config u
  | realname => exact writtenTo_setMissingRealname u
  | username name => exact writtenTo_set (.username name) u
  | uid uid => exact writtenTo_set (.uid uid) u
  | homedir dir => exact writtenTo_set (.homedir dir) u
  | gid gid => exact writtenTo_set (.gid gid) u
  | shadow shadow => exact writtenTo_shadow shadow u
  | secret => exact writtenTo_withSecret env u

/-- An addition works on the object by writes. -/
theorem gumdDaemonUserAdd_writtenTo (env : Env) (s : St GumdDaemonUser) :
    wp (gumdDaemonUserAdd env) (fun _ t => s.self.WrittenTo t.self) s := by
  refine wp_mono (gumdDaemonUserAdd_steps env s) ?_
  intro r t steps
  unfold AdditionSteps at steps
  generalize t.self = u at steps ⊢
  induction steps with
  | refl => exact .refl s.self
  | tail _ step ih => exact ih.trans step.writtenTo

end GumdDaemonUser

/-! ## Runs -/

/-- Clients see the properties of the user. -/
def ShowsUser (s : GumdDbusUserAdapter) : Prop :=
  ∀ name : UserPropertyName, name.OnBus (s.front name) (s.back.getProperty name)

/-- The properties of the skeleton are those of the user. -/
def MirrorsUser (s : GumdDbusUserAdapter) : Prop :=
  ∀ name : UserPropertyName, s.front name = s.back.getProperty name

/-- What a client writes is taken by the user, or shown by it already. -/
def AdapterRequest.Shown (s : GumdDbusUserAdapter) : AdapterRequest → Prop
  | .setProperty name value => name.OnBus value (s.back.getProperty name) ∨ name.Takes value
  | .addUser _ _ => True
  | .updateUser _ _ => True

/-- What a client writes is taken by the user, or what the user has already. -/
def AdapterRequest.Taken (s : GumdDbusUserAdapter) : AdapterRequest → Prop
  | .setProperty name value => value = s.back.getProperty name ∨ name.Takes value
  | .addUser _ _ => True
  | .updateUser _ _ => True

theorem Handles.callBack_inStep {same : ∀ name : UserPropertyName, name.Value → name.Value → Prop}
    {Good : GumdDaemonUser → Prop} (lawful : Lawful dbusProperties userProperties same Good)
    (gecos : ∀ {u v : GumdDaemonUser}, v.pw.pwGecos = u.pw.pwGecos → Good u → Good v)
    {s t : GumdDbusUserAdapter} {done : GumdDaemonUser} (handles : Handles s done t)
    (rest : s.Resting) (inStep : s.InStep dbusProperties userProperties same Good) :
    t.Resting ∧ t.InStep dbusProperties userProperties same Good := by
  obtain ⟨depth, writes, -, returns⟩ := handles
  apply Binding.callBack_inStep lawful _ returns rest inStep
  intro change mem
  obtain ⟨write, -, rfl⟩ := List.mem_map.mp mem
  exact notified_change lawful gecos write

/-- Nothing is asked of the values, so every adapter is in step. -/
theorem lawful_true :
    Lawful dbusProperties userProperties (fun _ _ _ => True) fun _ => True where
  front := lawful_onBus.front
  frontOther := lawful_onBus.frontOther
  equivalence _ := ⟨fun _ => trivial, fun _ => trivial, fun _ _ => trivial⟩
  written _ _ _ _ := trivial
  others _ _ _ _ _ _ := trivial
  good _ _ _ _ := trivial

/-- Every request is served: the handlers return, and the daemon's operations are writes. -/
theorem AdapterStep.exists (s : GumdDbusUserAdapter) (request : AdapterRequest) :
    ∃ t, AdapterStep s request t := by
  have handled : ∀ {done}, s.back.WrittenTo done → ∃ t, Handles s done t := by
    rintro done ⟨writes, written⟩
    obtain ⟨t, returns⟩ := callBack_exists s (writes.map ObjectWrite.change)
    exact ⟨t, 2, writes, written, returns⟩
  cases request with
  | setProperty name value =>
    by_cases writable : (name.write value).Writable
    · obtain ⟨t, returns⟩ := writeFront_exists s name value
      exact ⟨t, .setProperty writable returns⟩
    · exact ⟨s, .refused writable⟩
  | addUser env w =>
    have written := GumdDaemonUser.gumdDaemonUserAdd_writtenTo env ⟨s.back, w⟩
    obtain ⟨t, handles⟩ := handled written
    exact ⟨t, .addUser handles⟩
  | updateUser env w =>
    have written := GumdDaemonUser.gumdDaemonUserUpdate_writtenTo env ⟨s.back, w⟩
    obtain ⟨t, handles⟩ := handled written
    exact ⟨t, .updateUser handles⟩

/-- After every request all notifications have been delivered. -/
theorem AdapterStep.resting {s t : GumdDbusUserAdapter} {request : AdapterRequest}
    (step : AdapterStep s request t) (rest : s.Resting) : t.Resting := by
  have handled : ∀ {done}, Handles s done t → t.Resting := fun handles =>
    (handles.callBack_inStep lawful_true (fun _ _ => trivial) rest
      ⟨fun _ => trivial, trivial⟩).1
  cases step with
  | refused => exact rest
  | setProperty writable returns =>
    exact resting_writeFront rest (lawful_onBus.front _ _ _) returns
  | addUser handles => exact handled handles
  | updateUser handles => exact handled handles

/-- The properties that clients cannot write are not rejected by the user. -/
theorem takes_of_not_writable {name : UserPropertyName} {value : name.Value}
    (readOnly : ¬(name.write value).Writable) : name.Takes value := by
  cases name with
  | uid => trivial
  | gid => trivial
  | _ => exact absurd trivial readOnly

/-- A request keeps what clients see exactly if its value is taken or shown. -/
theorem AdapterStep.showsUser_iff {s t : GumdDbusUserAdapter} {request : AdapterRequest}
    (step : AdapterStep s request t) (rest : s.Resting) (shows : ShowsUser s) :
    ShowsUser t ↔ request.Shown s := by
  have handled : ∀ {done}, Handles s done t → ShowsUser t := fun handles =>
    (handles.callBack_inStep lawful_onBus (fun _ _ => trivial) rest ⟨shows, trivial⟩).2.mirrors
  cases step with
  | refused readOnly => exact iff_of_true shows (Or.inr (takes_of_not_writable readOnly))
  | setProperty writable returns =>
    have written := mirrors_writeFront_iff lawful_onBus rest ⟨shows, trivial⟩ returns
    exact written.trans (onBus_write_iff _ _ _)
  | addUser handles => exact iff_of_true (handled handles) trivial
  | updateUser handles => exact iff_of_true (handled handles) trivial

/-- The very values of a user that has a gecos, in an adapter at rest. -/
structure InStepExactly (s : GumdDbusUserAdapter) : Prop where
  resting : s.Resting
  inStep : s.InStep dbusProperties userProperties (fun _ a b => a = b) fun user =>
    user.pw.pwGecos.isSome = true

/-- A request whose value is taken keeps the values. -/
theorem AdapterStep.inStepExactly {s t : GumdDbusUserAdapter} {request : AdapterRequest}
    (step : AdapterStep s request t) (taken : request.Taken s) (before : InStepExactly s) :
    InStepExactly t := by
  obtain ⟨rest, inStep⟩ := before
  have handled : ∀ {done}, Handles s done t → InStepExactly t := fun handles =>
    have kept := handles.callBack_inStep lawful_exact
      (fun same given => by rw [same]; exact given) rest inStep
    ⟨kept.1, kept.2⟩
  refine ⟨step.resting rest, ?_⟩
  cases step with
  | refused => exact inStep
  | setProperty writable returns =>
    refine ⟨(mirrors_writeFront_iff lawful_exact rest inStep returns).mpr ?_, ?_⟩
    · exact ((GumdDaemonUser.getProperty_write_eq_iff _ _ _).mpr (taken.imp Eq.symm id)).symm
    · rw [writeFront_resting rest (lawful_exact.front _ _ _) returns]
      exact lawful_exact.good _ _ _ inStep.good
  | addUser handles => exact (handled handles).inStep
  | updateUser handles => exact (handled handles).inStep

theorem resting_gumdDbusUserAdapterNew (user : GumdDaemonUser) :
    (gumdDbusUserAdapterNew user).Resting := ⟨rfl, rfl, rfl⟩

/-- In every run of a new adapter, clients see the properties of the user in all states exactly if
the user takes what they write.  The very values are the same if the user had a gecos. -/
theorem adapter_showsUser_iff (user : GumdDaemonUser)
    {run : List (AdapterRequest × GumdDbusUserAdapter)}
    (steps : Runs.Steps AdapterStep (gumdDbusUserAdapterNew user) run) :
    ((∀ e ∈ run, ShowsUser e.2) ↔
        Runs.EachStep (fun s r => r.Shown s) (gumdDbusUserAdapterNew user) run) ∧
      (user.pw.pwGecos.isSome = true →
        Runs.EachStep (fun s r => r.Taken s) (gumdDbusUserAdapterNew user) run →
          ∀ e ∈ run, MirrorsUser e.2) := by
  have rest := resting_gumdDbusUserAdapterNew user
  constructor
  · have start : ShowsUser (gumdDbusUserAdapterNew user) :=
      fun name => (onBus_equivalence name).refl _
    apply Runs.states_iff _ _ steps rest start
    · exact fun s r t step rest => step.resting rest
    · exact fun s r t step rest shows => step.showsUser_iff rest shows
  · intro gecos taken e mem
    have start : InStepExactly (gumdDbusUserAdapterNew user) := ⟨rest, fun _ => rfl, gecos⟩
    exact (taken.states (fun s r t step taken before => step.inStepExactly taken before) steps start
      e mem).inStep.mirrors

namespace Sample

/-- A new user whose D-Bus object has been exported. -/
def exported : GumdDbusUserAdapter :=
  gumdDbusUserAdapterNew (addition.self.setRealnameProperty (some (str "Bob")))

/-- An office is written, and the user is added. -/
theorem adapter_showsUser_iff_bob :
    ∃ t u, Runs.Steps AdapterStep exported
      [(.setProperty .office (some (str "B2")), t), (.addUser env addition.world, u)] ∧
        MirrorsUser t ∧ MirrorsUser u := by
  obtain ⟨t, first⟩ := AdapterStep.exists exported (.setProperty .office (some (str "B2")))
  obtain ⟨u, second⟩ := AdapterStep.exists t (.addUser env addition.world)
  have steps : Runs.Steps AdapterStep exported
      [(.setProperty .office (some (str "B2")), t), (.addUser env addition.world, u)] :=
    ⟨first, second, trivial⟩
  have valid : gumValidateDbStringEntry (some (str "B2")) = .ok () := by decide
  have mirrors := (adapter_showsUser_iff _ steps).2 (by decide) ⟨Or.inr valid, trivial, trivial⟩
  exact ⟨t, u, steps, mirrors _ List.mem_cons_self,
    mirrors _ (List.mem_cons_of_mem _ List.mem_cons_self)⟩

/-- The skeleton keeps a real name that the user has rejected. -/
theorem setProperty_not_shown : ∃ t, Runs.Steps AdapterStep exported
    [(.setProperty .realname (some (str "Bob, Jr")), t)] ∧
      t.front .realname = some (str "Bob, Jr") ∧ t.back.getProperty .realname = some (str "Bob") ∧
        ¬ShowsUser t := by
  obtain ⟨t, step⟩ := AdapterStep.exists exported (.setProperty .realname (some (str "Bob, Jr")))
  have result : t = { exported with
      front := dbusProperties.set exported.front .realname (some (str "Bob, Jr"))
      back := userProperties.set exported.back .realname (some (str "Bob, Jr")) } := by
    cases step with
    | refused readOnly => exact absurd trivial readOnly
    | setProperty writable returns =>
      exact writeFront_resting (resting_gumdDbusUserAdapterNew _) (lawful_onBus.front _ _ _) returns
  have front : t.front .realname = some (str "Bob, Jr") := by rw [result]; rfl
  have back : t.back.getProperty .realname = some (str "Bob") := by rw [result]; decide
  refine ⟨t, ⟨step, trivial⟩, front, back, fun shows => ?_⟩
  have same := shows .realname
  rw [front, back] at same
  change str "Bob, Jr" = str "Bob" at same
  exact absurd same (by decide)

end Sample

end Gumd
