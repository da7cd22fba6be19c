/-
# The issuer of a token

A token names its issuer by a URL or by the part of one that starts at the host.  The host has to
belong to the domain of the identity provider; nothing else of the URL is looked at.
-/
import TokenTrust.Domain.Subdomain
import TokenTrust.Token
import TokenTrust.Url.Parse

namespace TokenTrust
namespace Issuer

/-- What is reported about a token that does not name its issuer. -/
def missing : Error :=
  .issuerMismatch ("Issuer validation can not be performed because Jwt token does not contain " ++
    "'iss' claim.")

/-- What is reported about another issuer. -/
def mismatch (domain issuer : String) : Error :=
  .issuerMismatch ("Issuer " ++ issuer ++ " does not match the domain " ++ domain ++
    " of the identity provider.")

/-- What stands between scheme and host. -/
def schemeEnd : List Char := "://".toList

/-- The host of an issuer.  Without a scheme it is taken for a host. -/
def host? (issuer : String) : Option String :=
  let address := if Text.occurs schemeEnd issuer.toList then issuer else "https://" ++ issuer
  (Url.parse address).toOption.bind Url.hostText?

/-- Checks the issuer of a token. -/
def check (domain : String) (t : Token) : Except Error Unit := do
  let some issuer := t.issuer?.filter Text.hasInk | throw missing
  if !(host? issuer).any (Domain.covers domain) then throw (mismatch domain issuer)

end Issuer
end TokenTrust
