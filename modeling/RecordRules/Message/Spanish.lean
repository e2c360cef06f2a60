import RecordRules.Message.Catalog

/-!
# Messages in Spanish
-/

namespace RecordRules.Catalog

/-- The messages of the rules in Spanish. -/
def spanish : Catalog where
  templates := [
    ("required", "El campo \x7bfield\x7d es obligatorio"),
    ("required_file", "El campo \x7bfield\x7d es obligatorio"),
    ("contains", "El campo \x7bfield\x7d debe contener uno de estos valores: \x7bparam\x7d"),
    ("contains_list", "El campo \x7bfield\x7d debe contener un valor de su lista desplegable"),
    ("doesnt_contain_list", "El campo \x7bfield\x7d contiene un valor que no se acepta"),
    ("boolean", "El campo \x7bfield\x7d debe ser verdadero o falso"),
    ("starts", "El campo \x7bfield\x7d debe comenzar con \x7bparam\x7d"),
    ("max_len", "El campo \x7bfield\x7d debe tener \x7bparam\x7d caracteres o menos"),
    ("min_len", "El campo \x7bfield\x7d debe tener al menos \x7bparam\x7d caracteres"),
    ("exact_len", "El campo \x7bfield\x7d debe tener exactamente \x7bparam\x7d caracteres"),
    ("max_numeric",
      "El campo \x7bfield\x7d debe ser un valor numérico igual o menor que \x7bparam\x7d"),
    ("min_numeric",
      "El campo \x7bfield\x7d debe ser un valor numérico igual o mayor que \x7bparam\x7d"),
    ("valid_array_size_greater",
      "El campo \x7bfield\x7d debe ser una lista con al menos \x7bparam\x7d elementos"),
    ("valid_array_size_lesser",
      "El campo \x7bfield\x7d debe ser una lista con como máximo \x7bparam\x7d elementos"),
    ("valid_array_size_equal",
      "El campo \x7bfield\x7d debe ser una lista con exactamente \x7bparam\x7d elementos"),
    ("alpha", "El campo \x7bfield\x7d solo puede contener letras"),
    ("alpha_numeric", "El campo \x7bfield\x7d solo puede contener letras y números"),
    ("alpha_dash", "El campo \x7bfield\x7d solo puede contener letras, guiones y guiones bajos"),
    ("alpha_space", "El campo \x7bfield\x7d solo puede contener letras y espacios"),
    ("alpha_numeric_space",
      "El campo \x7bfield\x7d solo puede contener letras, números y espacios"),
    ("valid_name", "El campo \x7bfield\x7d debe contener un nombre válido"),
    ("street_address", "El campo \x7bfield\x7d debe ser una dirección válida"),
    ("numeric", "El campo \x7bfield\x7d solo puede contener caracteres numéricos"),
    ("integer", "El campo \x7bfield\x7d debe ser un número sin decimales"),
    ("float", "El campo \x7bfield\x7d debe ser un número"),
    ("valid_email", "El campo \x7bfield\x7d debe ser una dirección de correo válida"),
    ("valid_url", "El campo \x7bfield\x7d debe ser una URL válida"),
    ("valid_ip", "El campo \x7bfield\x7d debe contener una dirección IP válida"),
    ("valid_ipv4", "El campo \x7bfield\x7d debe contener una dirección IPv4 válida"),
    ("valid_ipv6", "El campo \x7bfield\x7d debe contener una dirección IPv6 válida"),
    ("guidv4", "El campo \x7bfield\x7d debe contener un GUID válido"),
    ("valid_json_string", "El campo \x7bfield\x7d debe contener un objeto JSON válido"),
    ("phone_number", "El campo \x7bfield\x7d debe ser un número de teléfono válido"),
    ("regex", "El campo \x7bfield\x7d no tiene un formato válido"),
    ("date", "El campo \x7bfield\x7d debe ser una fecha válida"),
    ("min_age", "El campo \x7bfield\x7d debe indicar una edad de al menos \x7bparam\x7d años"),
    ("valid_cc", "El campo \x7bfield\x7d debe contener un número de tarjeta de crédito válido"),
    ("iban", "El campo \x7bfield\x7d debe contener un IBAN válido"),
    ("equalsfield", "El campo \x7bfield\x7d no coincide con el campo \x7bparam\x7d"),
    ("extension", "El campo \x7bfield\x7d solo admite las siguientes extensiones: \x7bparam\x7d")]
  default := .text "El campo \x7bfield\x7d no es válido"
  locale := .text "es"
  labels := []

end RecordRules.Catalog
