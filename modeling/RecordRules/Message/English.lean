import RecordRules.Message.Catalog

/-!
# Messages in English
-/

namespace RecordRules.Catalog

/-- The messages of the rules in English. -/
def english : Catalog where
  templates := [
    ("required", "The \x7bfield\x7d field is required"),
    ("required_file", "The \x7bfield\x7d field is required"),
    ("contains", "The \x7bfield\x7d field needs to contain one of these values: \x7bparam\x7d"),
    ("contains_list", "The \x7bfield\x7d field needs to contain a value from its drop down list"),
    ("doesnt_contain_list", "The \x7bfield\x7d field contains a value that is not accepted"),
    ("boolean", "The \x7bfield\x7d field needs to be true or false"),
    ("starts", "The \x7bfield\x7d field needs to start with \x7bparam\x7d"),
    ("max_len", "The \x7bfield\x7d field needs to be \x7bparam\x7d characters or less"),
    ("min_len", "The \x7bfield\x7d field needs to be at least \x7bparam\x7d characters"),
    ("exact_len", "The \x7bfield\x7d field needs to be exactly \x7bparam\x7d characters"),
    ("max_numeric",
      "The \x7bfield\x7d field needs to be a numeric value, equal to, or lower than \x7bparam\x7d"),
    ("min_numeric",
      "The \x7bfield\x7d field needs to be a numeric value, equal to, or " ++
        "higher than \x7bparam\x7d"),
    ("valid_array_size_greater",
      "The \x7bfield\x7d field needs to be a list with at least \x7bparam\x7d items"),
    ("valid_array_size_lesser",
      "The \x7bfield\x7d field needs to be a list with at most \x7bparam\x7d items"),
    ("valid_array_size_equal",
      "The \x7bfield\x7d field needs to be a list with exactly \x7bparam\x7d items"),
    ("alpha", "The \x7bfield\x7d field may only contain letters"),
    ("alpha_numeric", "The \x7bfield\x7d field may only contain letters and numbers"),
    ("alpha_dash", "The \x7bfield\x7d field may only contain letters, dashes and underscores"),
    ("alpha_space", "The \x7bfield\x7d field may only contain letters and spaces"),
    ("alpha_numeric_space",
      "The \x7bfield\x7d field may only contain letters, numbers and spaces"),
    ("valid_name", "The \x7bfield\x7d field needs to contain a valid human name"),
    ("street_address", "The \x7bfield\x7d field needs to be a valid street address"),
    ("valid_persian_name", "The \x7bfield\x7d field needs to be a valid Persian name"),
    ("valid_eng_per_pas_name",
      "The \x7bfield\x7d field needs to be a valid English, Persian or Pashto name"),
    ("valid_persian_digit", "The \x7bfield\x7d field needs to contain Persian digits only"),
    ("valid_persian_text", "The \x7bfield\x7d field needs to be valid Persian text"),
    ("valid_pashtu_text", "The \x7bfield\x7d field needs to be valid Pashto text"),
    ("numeric", "The \x7bfield\x7d field needs to contain numeric characters only"),
    ("integer", "The \x7bfield\x7d field needs to be a number without decimals"),
    ("float", "The \x7bfield\x7d field needs to be a number"),
    ("valid_email", "The \x7bfield\x7d field needs to be a valid email address"),
    ("valid_url", "The \x7bfield\x7d field needs to be a valid URL"),
    ("valid_ip", "The \x7bfield\x7d field needs to contain a valid IP address"),
    ("valid_ipv4", "The \x7bfield\x7d field needs to contain a valid IPv4 address"),
    ("valid_ipv6", "The \x7bfield\x7d field needs to contain a valid IPv6 address"),
    ("guidv4", "The \x7bfield\x7d field needs to contain a valid GUID"),
    ("valid_json_string", "The \x7bfield\x7d field needs to contain a valid JSON object"),
    ("phone_number", "The \x7bfield\x7d field needs to be a valid phone number"),
    ("regex", "The \x7bfield\x7d field needs to contain a value with valid format"),
    ("date", "The \x7bfield\x7d field needs to be a valid date"),
    ("min_age", "The \x7bfield\x7d field needs to be an age of at least \x7bparam\x7d"),
    ("valid_cc", "The \x7bfield\x7d field needs to contain a valid credit card number"),
    ("iban", "The \x7bfield\x7d field needs to contain a valid IBAN"),
    ("equalsfield", "The \x7bfield\x7d field does not equal the \x7bparam\x7d field"),
    ("extension",
      "The \x7bfield\x7d field can only have one of the following extensions: \x7bparam\x7d")]
  default := .text "The \x7bfield\x7d field is invalid"
  locale := .text "en"
  labels := []

end RecordRules.Catalog
