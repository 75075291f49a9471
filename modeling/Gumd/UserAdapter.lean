import Gumd.Lib.Binding
import Gumd.UserService
import Gumd.GecosRules

/-!
# The D-Bus object of a user

`GumdDbusUserAdapter` exports a user: a D-Bus skeleton object holds a copy of the user's properties,
and a handler on either object copies what has changed to the other one.  A client writes to the
skeleton; the daemon works on the user.
-/

namespace Gumd

open StateWp EntryLoop Binding

/-! ## Properties -/

/-- The properties that `GumDbusUser` and `GumdDaemonUser` have in common. -/
inductive UserPropertyName where
  | uid
  | gid
  | usertype
  | username
  | secret
  | nickname
  | realname
  | office
  | officephone
  | homephone
  | homedir
  | shell
  | icon
  deriving DecidableEq, Repr

/-- The type of a property's values; a string can be `NULL`. -/
abbrev UserPropertyName.Value : UserPropertyName → Type
  | .uid => UInt32
  | .gid => UInt32
  | .usertype => UInt32
  | _ => Option Str

/-- The write of a value to the property. -/
def UserPropertyName.write : (name : UserPropertyName) → name.Value → UserProperty
  | .uid, value => .uid value
  | .gid, value => .gid value
  | .usertype, value => .usertype value
  | .username, value => .username value
  | .secret, value => .secret value
  | .nickname, value => .nickname value
  | .realname, value => .realname value
  | .office, value => .office value
  | .officephone, value => .officephone value
  | .homephone, value => .homephone value
  | .homedir, value => .homedir value
  | .shell, value => .shell value
  | .icon, value => .icon value

/-- The property that is written. -/
def UserProperty.name : UserProperty → UserPropertyName
  | .uid _ => .uid
  | .gid _ => .gid
  | .usertype _ => .usertype
  | .username _ => .username
  | .secret _ => .secret
  | .nickname _ => .nickname
  | .realname _ => .realname
  | .office _ => .office
  | .officephone _ => .officephone
  | .homephone _ => .homephone
  | .homedir _ => .homedir
  | .shell _ => .shell
  | .icon _ => .icon

/-- `_get_property` of the text fields in the gecos, which leaves a missing one `NULL`. -/
def GumdDaemonUser.gecosProperty (self : GumdDaemonUser) (field : GecosField) : Option Str :=
  gumStringUtilsGetString (ptr self.pw.pwGecos) comma field.index

/-- `_get_property` of a user object. -/
def GumdDaemonUser.getProperty (self : GumdDaemonUser) : (name : UserPropertyName) → name.Value
  | .uid => self.pw.pwUid
  | .gid => self.pw.pwGid
  | .usertype => self.usertype.value
  | .username => ptr self.pw.pwName
  | .secret => ptr self.pw.pwPasswd
  | .nickname => ptr self.nickName
  | .realname => self.gecosProperty .realname
  | .office => self.gecosProperty .office
  | .officephone => self.gecosProperty .officephone
  | .homephone => self.gecosProperty .homephone
  | .homedir => ptr self.pw.pwDir
  | .shell => ptr self.pw.pwShell
  | .icon => ptr self.icon

/-- The setters' condition on a string: it differs from the old one, and is valid. -/
def changesString (validate : Option Str → Except GError Unit) (value old : Option Str) : Bool :=
  gStrcmp0 value old ≠ 0 ∧ validate value = .ok ()

/-- Whether the setter of the property calls `g_object_notify_by_pspec`. -/
def UserProperty.notifies (self : GumdDaemonUser) : UserProperty → Bool
  | .uid value => self.pw.pwUid ≠ value
  | .gid value => self.pw.pwGid ≠ value
  | .usertype value =>
      (0 < value ∧ value < gumUsertypeMaxValue) ∧ self.usertype.value ≠ value
  | .username value => changesString gumValidateName value (ptr self.pw.pwName)
  | .secret value => changesString gumValidateDbSecretEntry value (ptr self.pw.pwPasswd)
  | .nickname value => changesString gumValidateDbStringEntry value (ptr self.nickName)
  | .realname value => changesString gumValidateDbStringEntry value (self.gecosProperty .realname)
  | .office value => changesString gumValidateDbStringEntry value (self.gecosProperty .office)
  | .officephone value =>
      changesString gumValidateDbStringEntry value (self.gecosProperty .officephone)
  | .homephone value => changesString gumValidateDbStringEntry value (self.gecosProperty .homephone)
  | .homedir value => changesString gumValidateDbStringEntry value (ptr self.pw.pwDir)
  | .shell value => changesString gumValidateDbStringEntry value (ptr self.pw.pwShell)
  | .icon value => changesString gumValidateDbStringEntry value (ptr self.icon)

/-! ## The adapter -/

/-- `GumDbusUser`: the skeleton holds any value. -/
abbrev DbusUser := (name : UserPropertyName) → name.Value

/-- `GumdDbusUserAdapter`, with `dbus_user` in front, `user` behind it, and `prop_name_in_change`. -/
abbrev GumdDbusUserAdapter := Bound DbusUser GumdDaemonUser UserPropertyName

/-- The properties of the skeleton. -/
def dbusProperties : Properties DbusUser UserPropertyName UserPropertyName.Value where
  get dbusUser name := dbusUser name
  set dbusUser name value := Function.update dbusUser name value

/-- The properties of the user. -/
def userProperties : Properties GumdDaemonUser UserPropertyName UserPropertyName.Value where
  get user name := user.getProperty name
  set user name value := (name.write value).set user

/-- `_sync_user_properties`, from the user to the skeleton. -/
def syncUserProperties (user : GumdDaemonUser) : DbusUser := fun name => user.getProperty name

/-- `gumd_dbus_user_adapter_new_with_connection`; the handlers are connected when the properties
are in step. -/
def gumdDbusUserAdapterNew (user : GumdDaemonUser) : GumdDbusUserAdapter where
  front := syncUserProperties user
  back := user
  inChange := none
  frozen := false
  pending := []

/-! ## Calls -/

/-- What an operation of the daemon does to its user object. -/
inductive ObjectWrite where
  | set (property : UserProperty)
  | renewSecret
  | setShadow (shadow : SpwdRecord)

/-- A setter notifies what it changes.  `_set_secret` clears the plain secret in place before it sets
the marker.  The shadow record is no property. -/
def ObjectWrite.change : ObjectWrite → Change GumdDaemonUser UserPropertyName
  | .set property =>
      ⟨property.set, fun self => if property.notifies self then some property.name else none⟩
  | .renewSecret =>
      ⟨fun self => GumdDaemonUser.setSecretProperty (some (str "x"))
        { self with pw := { self.pw with pwPasswd := some emptySecret } }, fun _ => some .secret⟩
  | .setShadow shadow => ⟨fun self => { self with shadow := shadow }, fun _ => none⟩

/-- The object after the writes. -/
def writeObject (user : GumdDaemonUser) (writes : List ObjectWrite) : GumdDaemonUser :=
  writes.foldl (fun user write => write.change.apply user) user

/-- What the adapter is asked for. -/
inductive AdapterRequest where
  | setProperty (name : UserPropertyName) (value : name.Value)
  | addUser (env : Env) (w : World)
  | updateUser (env : Env) (w : World)

/-- A handler freezes the notifications of the skeleton while the daemon works on the user, and
thaws them afterwards.  The daemon's writes are those that leave the user as the operation does. -/
def Handles (s : GumdDbusUserAdapter) (done : GumdDaemonUser) (t : GumdDbusUserAdapter) : Prop :=
  ∃ depth writes, writeObject s.back writes = done ∧
    callBack dbusProperties userProperties depth s (writes.map ObjectWrite.change) = some t

/-- The steps of an adapter: a property is written by a client, or `_handle_add_user` or
`_handle_update_user` is called. -/
inductive AdapterStep : GumdDbusUserAdapter → AdapterRequest → GumdDbusUserAdapter → Prop
  | refused {s name value} : ¬(name.write value).Writable → AdapterStep s (.setProperty name value) s
  | setProperty {s t depth name value} : (name.write value).Writable →
      writeFront dbusProperties userProperties depth s name value = some t →
      AdapterStep s (.setProperty name value) t
  | addUser {s t env w} :
      Handles s ((GumdDaemonUser.gumdDaemonUserAdd env).run ⟨s.back, w⟩).2.self t →
      AdapterStep s (.addUser env w) t
  | updateUser {s t env w} :
      Handles s ((GumdDaemonUser.gumdDaemonUserUpdate env).run ⟨s.back, w⟩).2.self t →
      AdapterStep s (.updateUser env w) t

/-! ## Values -/

/-- Two values of a property look the same on the bus, where `NULL` is the empty string. -/
def UserPropertyName.OnBus : (name : UserPropertyName) → name.Value → name.Value → Prop
  | .uid, a, b => a = b
  | .gid, a, b => a = b
  | .usertype, a, b => a = b
  | .username, a, b => a.getD [] = b.getD []
  | .secret, a, b => a.getD [] = b.getD []
  | .nickname, a, b => a.getD [] = b.getD []
  | .realname, a, b => a.getD [] = b.getD []
  | .office, a, b => a.getD [] = b.getD []
  | .officephone, a, b => a.getD [] = b.getD []
  | .homephone, a, b => a.getD [] = b.getD []
  | .homedir, a, b => a.getD [] = b.getD []
  | .shell, a, b => a.getD [] = b.getD []
  | .icon, a, b => a.getD [] = b.getD []

/-- The setter of the property takes the value. -/
def UserPropertyName.Takes : (name : UserPropertyName) → name.Value → Prop
  | .uid, _ => True
  | .gid, _ => True
  | .usertype, value => ∃ type : GumUserType, type ≠ .none ∧ value = type.value
  | .username, value => gumValidateName value = .ok ()
  | .secret, value => gumValidateDbSecretEntry value = .ok ()
  | .nickname, value => gumValidateDbStringEntry value = .ok ()
  | .realname, value => gumValidateDbStringEntry value = .ok ()
  | .office, value => gumValidateDbStringEntry value = .ok ()
  | .officephone, value => gumValidateDbStringEntry value = .ok ()
  | .homephone, value => gumValidateDbStringEntry value = .ok ()
  | .homedir, value => gumValidateDbStringEntry value = .ok ()
  | .shell, value => gumValidateDbStringEntry value = .ok ()
  | .icon, value => gumValidateDbStringEntry value = .ok ()

end Gumd
