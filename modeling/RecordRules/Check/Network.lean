import RecordRules.Check.Basic
import RecordRules.Net.Address
import RecordRules.Net.Url

/-!
# Network rules

Addresses of mail, of machines and of resources. Only the form is checked; nothing is looked up. Which
texts have the form of a mail address is for another package to decide.
-/

namespace RecordRules.Check

/-- An address of electronic mail, by the decision of a package that may give up on a text. -/
def validEmail (isEmail : String → Except Cause Bool) : Check :=
  Check.ofTest "valid_email" fun v _ =>
    match v with
    | .text s => isEmail s
    | _ => .ok false

/-- An absolute locator of a resource. -/
def validUrl : Check := Check.ofString "valid_url" Net.Url.isAbsolute

/-- An internet address of either version. -/
def validIp : Check := Check.ofString "valid_ip" fun s => Net.isIpv4 s || Net.isIpv6 s

/-- An internet address of version 4. -/
def validIpv4 : Check := Check.ofString "valid_ipv4" Net.isIpv4

/-- An internet address of version 6. -/
def validIpv6 : Check := Check.ofString "valid_ipv6" Net.isIpv6

end RecordRules.Check
