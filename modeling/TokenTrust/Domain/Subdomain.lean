/-
# Subdomains

A host belongs to a domain if it is the domain or a name below it.  Only whole labels count, so
`notexample.com` does not belong to `example.com`; case and dots at the end do not count, and to
the empty domain nothing belongs.
-/
import TokenTrust.Text.Blank

namespace TokenTrust
namespace Domain

/-- A name as it is compared. -/
def comparable (name : String) : List Char :=
  (Text.lower (Text.trimEnd '.' name)).toList

/-- Whether a host is a domain or a name below it. -/
def covers (domain host : String) : Bool :=
  let d := comparable domain
  let h := comparable host
  !d.isEmpty && (h == d || ('.' :: d).isSuffixOf h)

end Domain
end TokenTrust
