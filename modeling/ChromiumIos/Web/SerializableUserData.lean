import ChromiumIos.Web.Archive

/-!
# Serializable user data

`serializable_user_data_manager_impl.mm`: values that features attach to a
`WebState` and that are stored with its session.

A session saved by an old version has some of these values under keys of their
own; decoding looks there too.
-/

namespace ChromiumIos

open Lib

/-- `GetLegacyKeyConversion`: the key a value was stored under, and its key
now. -/
def getLegacyKeyConversion : List (String × String) :=
  [("tabId", "TabID"), ("openerId", "OpenerID"), ("openerNavigationIndex", "OpenerNavigationIndex")]

structure SerializableUserDataImpl where
  data : Keyed String Coded
  legacyKeyConversions : List (String × String)

namespace SerializableUserDataImpl

def kSerializedUserDataKey : String := "serializedUserData"

/-- `SerializableUserDataImpl()`. -/
def new : SerializableUserDataImpl := ⟨.empty, getLegacyKeyConversion⟩

/-- `SerializableUserDataImpl(NSDictionary*)`. -/
def ofData (data : Keyed String Coded) : SerializableUserDataImpl := ⟨data, []⟩

/-- `Encode`. -/
def encode (userData : SerializableUserDataImpl) (coder : NSCoder) : NSCoder :=
  coder.encodeObject (some (.dictionary userData.data)) kSerializedUserDataKey

/-- `GetDecodedLegacyValues`. Assigning `nil` to a key leaves the dictionary
without that key. -/
def getDecodedLegacyValues (userData : SerializableUserDataImpl) (coder : NSCoder) :
    Keyed String Coded :=
  userData.legacyKeyConversions.foldl (fun legacyValues (legacyKey, newKey) =>
    match coder.decodeObjectForKey legacyKey with
    | some value => legacyValues.set newKey value
    | none => legacyValues) .empty

/-- `Decode`. -/
def decode (userData : SerializableUserDataImpl) (coder : NSCoder) : SerializableUserDataImpl :=
  let data := ((coder.decodeObjectForKey kSerializedUserDataKey).bind (·.toDictionary?)).getD .empty
  { userData with data := data.addEntries (userData.getDecodedLegacyValues coder) }

end SerializableUserDataImpl

structure SerializableUserDataManagerImpl where
  data : Keyed String Coded

namespace SerializableUserDataManagerImpl

def new : SerializableUserDataManagerImpl := ⟨.empty⟩

/-- `AddSerializableData`. -/
def addSerializableData (manager : SerializableUserDataManagerImpl) (data : Coded) (key : String) :
    SerializableUserDataManagerImpl :=
  ⟨manager.data.set key data⟩

/-- `GetValueForSerializationKey`. -/
def getValueForSerializationKey (manager : SerializableUserDataManagerImpl) (key : String) :
    Option Coded :=
  manager.data.get? key

/-- `CreateSerializableUserData`. -/
def createSerializableUserData (manager : SerializableUserDataManagerImpl) :
    SerializableUserDataImpl :=
  .ofData manager.data

/-- `AddSerializableUserData`: the data given, if any, replaces the manager's. -/
def addSerializableUserData (manager : SerializableUserDataManagerImpl)
    (data : Option SerializableUserDataImpl) : SerializableUserDataManagerImpl :=
  match data with
  | some data => ⟨data.data⟩
  | none => manager

@[simp] theorem getValueForSerializationKey_add (manager : SerializableUserDataManagerImpl)
    (data : Coded) (key other : String) :
    (manager.addSerializableData data key).getValueForSerializationKey other =
      if other = key then some data else manager.getValueForSerializationKey other :=
  Keyed.get?_set manager.data key data other

end SerializableUserDataManagerImpl

end ChromiumIos
