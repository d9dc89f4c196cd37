import OpaqueC.Catalog.Basic

/-!
# The built-in catalog

The classes of the UPnP development kit, in the order in which they are generated.
-/

namespace OpaqueC.Catalog

namespace Builtin

/-- A plain value of the given type. -/
def scalar (name typeName : String) : Member :=
  { name, kind := .scalar, typeName? := some typeName }

/-- A struct held in place. -/
def buffer (name typeName : String) : Member :=
  { name, kind := .buffer, typeName? := some typeName }

/-- An object of another class. -/
def nested (name typeName : String) : Member :=
  { name, kind := .nested, typeName? := some typeName }

/-- A string object. -/
def string (name : String) : Member :=
  { name, kind := .string }

/-- A DOM string. -/
def domString (name : String) : Member :=
  { name, kind := .domString }

/-- The head of a list. -/
def list (name : String) : Member :=
  { name, kind := .list }

/-- A member whose type the given header declares. -/
def declaredIn (header : String) (m : Member) : Member :=
  { m with header? := some header }

/-- A pointer to an XML document. -/
def document (name : String) : Member :=
  declaredIn "ixml.h" (scalar name "IXML_Document *")

/-- A socket address of any family. -/
def address (name : String) : Member :=
  declaredIn "UpnpInet.h" (buffer name "struct sockaddr_storage")

end Builtin

open Builtin

/-- The built-in classes. -/
def builtin : Catalog :=
  { classes := [
    ⟨"UpnpActionComplete", [
      scalar "ErrCode" "int", string "CtrlUrl", document "ActionRequest",
      document "ActionResult"]⟩,
    ⟨"UpnpActionRequest", [
      scalar "ErrCode" "int", scalar "Socket" "int", string "ErrStr", string "ActionName",
      string "DevUDN", string "ServiceID", document "ActionRequest", document "ActionResult",
      document "SoapHeader", address "CtrlPtIPAddr", string "Os"]⟩,
    ⟨"UpnpDiscovery", [
      scalar "ErrCode" "int", scalar "Expires" "int", string "DeviceID", string "DeviceType",
      string "ServiceType", string "ServiceVer", string "Location", string "Os", string "Date",
      string "Ext", address "DestAddr"]⟩,
    ⟨"UpnpEvent", [
      scalar "EventKey" "int", document "ChangedVariables", string "SID"]⟩,
    ⟨"UpnpEventSubscribe", [
      scalar "ErrCode" "int", scalar "TimeOut" "int", string "SID", string "PublisherUrl"]⟩,
    ⟨"UpnpExtraHeaders", [
      list "node", string "name", string "value", domString "resp"]⟩,
    ⟨"UpnpFileInfo", [
      declaredIn "<sys/types.h>" (scalar "FileLength" "off_t"),
      declaredIn "<time.h>" (scalar "LastModified" "time_t"), scalar "IsDirectory" "int",
      scalar "IsReadable" "int", domString "ContentType", list "ExtraHeadersList",
      address "CtrlPtIPAddr", string "Os"]⟩,
    ⟨"UpnpStateVarComplete", [
      scalar "ErrCode" "int", string "CtrlUrl", string "StateVarName", domString "CurrentVal"]⟩,
    ⟨"UpnpStateVarRequest", [
      scalar "ErrCode" "int", scalar "Socket" "int", string "ErrStr", string "DevUDN",
      string "ServiceID", string "StateVarName", address "CtrlPtIPAddr",
      domString "CurrentVal"]⟩,
    ⟨"UpnpSubscriptionRequest", [
      string "ServiceId", string "UDN", string "SID"]⟩,
    ⟨"GenlibClientSubscription", [
      scalar "RenewEventId" "int", string "SID", string "ActualSID", string "EventURL",
      scalar "Next" "GenlibClientSubscription *"]⟩,
    ⟨"SSDPResultData", [
      declaredIn "UpnpDiscovery.h" (nested "Param" "UpnpDiscovery"), scalar "Cookie" "void *",
      declaredIn "Callback.h" (scalar "CtrlptCallback" "Upnp_FunPtr")]⟩,
    ⟨"TestClass", [
      list "TheList", scalar "TheInteger" "int", scalar "TheUnsignedLong" "unsigned long",
      scalar "TheCharPointer" "char *",
      declaredIn "TheStruct.h" (buffer "TheBuffer" "struct TheStruct"),
      declaredIn "UpnpActionComplete.h" (nested "TheActionComplete" "UpnpActionComplete"),
      string "TheString", domString "TheDomString"]⟩] }

example : builtin.classes.length = 13 ∧ builtin.memberCount = 76 := by decide

end OpaqueC.Catalog
