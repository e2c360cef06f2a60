import RecordRules.Check.Characters
import RecordRules.Check.Checksum
import RecordRules.Check.Consistency
import RecordRules.Check.Dates
import RecordRules.Check.Formats
import RecordRules.Check.Limits
import RecordRules.Check.Membership
import RecordRules.Check.Network
import RecordRules.Check.Numbers
import RecordRules.Check.Presence
import RecordRules.Check.Upload
import RecordRules.Host

/-!
# The rules that come with the library

`Builtin.checks` lists the rules of a host by name.
-/

namespace RecordRules.Builtin

/-- The rules by name. -/
def checks (host : Host) : List (String × Check) := [
  ("required", Check.required),
  ("required_file", Check.requiredFile host.upload?),
  ("contains", Check.contains),
  ("contains_list", Check.containsList),
  ("doesnt_contain_list", Check.doesntContainList),
  ("boolean", Check.boolean),
  ("starts", Check.starts),
  ("max_len", Check.maxLen),
  ("min_len", Check.minLen),
  ("exact_len", Check.exactLen),
  ("max_numeric", Check.maxNumeric),
  ("min_numeric", Check.minNumeric),
  ("valid_array_size_greater", Check.arraySizeGreater),
  ("valid_array_size_lesser", Check.arraySizeLesser),
  ("valid_array_size_equal", Check.arraySizeEqual),
  ("alpha", Check.alpha),
  ("alpha_numeric", Check.alphaNumeric),
  ("alpha_dash", Check.alphaDash),
  ("alpha_space", Check.alphaSpace),
  ("alpha_numeric_space", Check.alphaNumericSpace),
  ("valid_name", Check.validName),
  ("street_address", Check.streetAddress),
  ("valid_persian_name", Check.validPersianName),
  ("valid_eng_per_pas_name", Check.validEngPerPasName),
  ("valid_persian_digit", Check.validPersianDigit),
  ("valid_persian_text", Check.validPersianText),
  ("valid_pashtu_text", Check.validPashtuText),
  ("numeric", Check.numeric),
  ("integer", Check.integer),
  ("float", Check.float),
  ("valid_email", Check.validEmail host.isEmail),
  ("valid_url", Check.validUrl),
  ("valid_ip", Check.validIp),
  ("valid_ipv4", Check.validIpv4),
  ("valid_ipv6", Check.validIpv6),
  ("guidv4", Check.guidv4),
  ("valid_json_string", Check.validJsonString host.jsonDepth),
  ("phone_number", Check.phoneNumber),
  ("regex", Check.regex host.patterns),
  ("date", Check.date),
  ("min_age", Check.minAge host.today),
  ("valid_cc", Check.validCard),
  ("iban", Check.iban),
  ("equalsfield", Check.equalsField host.comparisons),
  ("extension", Check.extension host.upload?)]

/-- The rule of a name. -/
def check? (host : Host) (name : String) : Option Check := (checks host).lookup name

end RecordRules.Builtin
