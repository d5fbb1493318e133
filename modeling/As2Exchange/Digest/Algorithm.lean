import As2Exchange.Digest.Md5
import As2Exchange.Text.Case

/-!
# Digest algorithms

The digests that partners agree on, under the names that they use for them.
-/

namespace As2Exchange

/-- A digest that an integrity check can use. -/
inductive DigestAlgorithm where
  | md5
  | sha1
  | sha256
  | sha384
  | sha512
  deriving DecidableEq, Repr

namespace DigestAlgorithm

/-- The names of the digests in lower case. -/
def names : List (String × DigestAlgorithm) :=
  [("md5", md5), ("sha1", sha1), ("sha-1", sha1), ("sha256", sha256), ("sha-256", sha256),
   ("sha384", sha384), ("sha-384", sha384), ("sha512", sha512), ("sha-512", sha512)]

/-- The digest with a name, in any letter case. -/
def ofName? (name : String) : Option DigestAlgorithm := names.lookup (Text.lower name)

def digest : DigestAlgorithm → Bytes → Bytes
  | md5 => Digest.md5
  | sha1 => Digest.sha1
  | sha256 => Digest.sha256
  | sha384 => Digest.sha384
  | sha512 => Digest.sha512

end DigestAlgorithm

end As2Exchange
