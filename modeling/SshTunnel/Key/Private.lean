import SshTunnel.Curve.Edwards
import SshTunnel.Curve.Named
import SshTunnel.Key.Der
import SshTunnel.Key.Pem
import SshTunnel.Key.Public

/-!
# Private keys

Of a private key only the public half is kept: that is what is offered to a server, and signing
with the other half is left to the connection. `PrivateKey.publicOfText` reads the formats in
which private keys lie in files, as long as they are not encrypted.
-/

namespace SshTunnel.PrivateKey

open Key

/-- The octets that a private key in the own format of SSH starts with. -/
def magic : Bytes := Text.Utf8.ofString "openssh-key-v1" ++ [0]

def readPair (src : Source) (kinds : List PublicKey.FieldKind) (secrets : Nat) :
    Except Fault (List Bytes × List Bytes × Source) := do
  let (fields, src) ← PublicKey.readFields src kinds
  let (secret, src) ← PublicKey.readFields src (List.replicate secrets .number)
  pure (fields, secret, src)

/-- The octets of a scalar of an elliptic curve, possibly after a zero. -/
def readScalar (src : Source) (size : Nat) : Except Fault Source := do
  let (s, src) ← src.readField
  if s.length = size ∨ (s.length = size + 1 ∧ s.head? = some 0) then pure src
  else throw .badLength

def readKeyPair (src : Source) : Except Fault (PublicKey × Source) := do
  let ((algorithm, kinds), src) ← PublicKey.readShape src
  if algorithm = "ssh-ed25519" then
    let (fields, src) ← PublicKey.readFields src kinds
    let (both, src) ← src.readField
    if both.length ≠ 64 then throw .badLength
    if fields ≠ [both.drop 32] then throw .mismatch
    pure (⟨algorithm, fields⟩, src)
  else if algorithm = "ssh-rsa" then
    let (fields, _, src) ← readPair src kinds 4
    pure (⟨algorithm, fields.reverse⟩, src)
  else if algorithm = "ssh-dss" then
    let (fields, _, src) ← readPair src kinds 1
    pure (⟨algorithm, fields⟩, src)
  else
    match kinds with
    | [.curve _, .point size] =>
        let (fields, src) ← PublicKey.readFields src kinds
        let src ← readScalar src size
        pure (⟨algorithm, fields⟩, src)
    | _ => throw .unknownAlgorithm

def padding (n : Nat) : Bytes :=
  (List.range n).map fun i => (i + 1).toUInt8

def blockSize : Nat := 8

/-- Checks the private section against the public half that precedes it. -/
def checkSection (s : Bytes) (key : PublicKey) : Except Fault Unit := do
  if s.length % blockSize ≠ 0 then throw .badLength
  let (first, src) ← (Source.ofOctets s).readWord
  let (second, src) ← src.readWord
  if first ≠ second then throw .mismatch
  let (pair, src) ← readKeyPair src
  if pair ≠ key then throw .mismatch
  let (comment, src) ← src.readField
  let _ ← (Text.Utf8.decode comment).mapError fun _ => Fault.badText
  let rest := src.octets
  if blockSize ≤ rest.length then throw .badLength
  if rest ≠ padding rest.length then throw .badNumber

def ofOpenSsh (s : Bytes) : Except Fault PublicKey := do
  if !magic.isPrefixOf s then throw .badNumber
  let (cipher, src) ← (Source.ofOctets (s.drop magic.length)).readField
  let (derivation, src) ← src.readField
  let (options, src) ← src.readField
  let none := Text.Utf8.ofString "none"
  if cipher ≠ none ∨ derivation ≠ none ∨ options ≠ [] then throw .encrypted
  let (count, src) ← src.readWord
  if count ≠ 1 then throw .badLength
  let (blob, src) ← src.readField
  let (key, left) ← PublicKey.ofSource (Source.ofOctets blob)
  left.finish
  let (inner, src) ← src.readField
  checkSection inner key
  src.finish
  pure key

/-- A number as the field of a key: no needless zeros, and one zero before a set first bit. -/
def numberField (n : Nat) : Bytes :=
  let digits := Bytes.ofNat n
  if digits.head?.any (0x80 ≤ ·) then 0 :: digits
  else digits

/-- Whether numbers are a key pair: the modulus is the product of the primes, and the exponents
cancel out. -/
def isRsaPair (n e d p q : Nat) : Bool :=
  1 < p && 1 < q && p * q = n && 2 ≤ e && e < 8589934592 && Nat.log2 n < 4096 &&
    d * e % (p - 1) = 1 % (p - 1) && d * e % (q - 1) = 1 % (q - 1)

def ofRsa (s : Bytes) : Except Fault PublicKey := do
  let (numbers, rest) ← Der.naturals 9 (← Der.whole s)
  if rest ≠ [] then throw (.trailing rest.length)
  match numbers with
  | [version, n, e, d, p, q, _, _, _] =>
      if version ≠ 0 then throw .badNumber
      if !isRsaPair n e d p q then throw .mismatch
      pure ⟨"ssh-rsa", [numberField e, numberField n]⟩
  | _ => throw .badNumber

def curves : List (Bytes × String × Curve.Weierstrass) :=
  [([0x2A, 0x86, 0x48, 0xCE, 0x3D, 0x03, 0x01, 0x07], "nistp256", Curve.p256),
    ([0x2B, 0x81, 0x04, 0x00, 0x22], "nistp384", Curve.p384),
    ([0x2B, 0x81, 0x04, 0x00, 0x23], "nistp521", Curve.p521)]

def minScalarLength : Nat := 24

def curvePoint (curve : Curve.Weierstrass) (scalar : Bytes) (told : Option Bytes) :
    Except Fault Bytes := do
  if scalar.length < minScalarLength ∨ curve.size < scalar.length then throw .badLength
  match curve.public? (Bytes.toNat scalar) with
  | none => throw .badNumber
  | some (x, y) =>
      let point := curve.encode x y
      if told.any fun t => t ≠ 0 :: point && t ≠ 0 :: curve.encodeShort x y then throw .mismatch
      pure point

/-- Reads a key of an elliptic curve, which tells its curve unless that is known. -/
def ofCurve (known : Option Bytes) (s : Bytes) : Except Fault PublicKey := do
  let (version, rest) ← Der.natural (← Der.whole s)
  if version ≠ 1 then throw .badNumber
  let (scalar, rest) ← Der.expect Der.octetsTag rest
  let (parameters, rest) ← Der.expectOptional 0xA0 rest
  let (point, rest) ← Der.expectOptional 0xA1 rest
  if rest ≠ [] then throw (.trailing rest.length)
  let told ← parameters.mapM fun p => (·.1) <$> Der.expect Der.identifierTag p
  let bits ← point.mapM fun p => (·.1) <$> Der.expect Der.bitsTag p
  match (known.or told).bind fun curve => curves.lookup curve with
  | some (name, curve) =>
      let point ← curvePoint curve scalar bits
      pure ⟨"ecdsa-sha2-" ++ name, [Text.Utf8.ofString name, point]⟩
  | none => throw .unknownAlgorithm

def ofSeed (s : Bytes) : Except Fault PublicKey := do
  let (seed, rest) ← Der.expect Der.octetsTag s
  if seed.length ≠ 32 ∨ rest ≠ [] then throw .badLength
  pure ⟨"ssh-ed25519", [Curve.Edwards.publicOfSeed seed]⟩

def edwardsIdentifier : Bytes := [0x2B, 0x65, 0x70]

def rsaIdentifier : Bytes := [0x2A, 0x86, 0x48, 0x86, 0xF7, 0x0D, 0x01, 0x01, 0x01]

def curveIdentifier : Bytes := [0x2A, 0x86, 0x48, 0xCE, 0x3D, 0x02, 0x01]

def ofStructure (s : Bytes) : Except Fault PublicKey := do
  let (version, rest) ← Der.natural (← Der.whole s)
  if 1 < version then throw .badNumber
  let (algorithm, rest) ← Der.expect Der.sequenceTag rest
  let (key, _) ← Der.expect Der.octetsTag rest
  let (identifier, parameters) ← Der.expect Der.identifierTag algorithm
  if identifier = rsaIdentifier then ofRsa key
  else if identifier = curveIdentifier then
    let (curve, _) ← Der.expect Der.identifierTag parameters
    ofCurve (some curve) key
  else if identifier = edwardsIdentifier ∧ parameters = [] then ofSeed key
  else throw .unknownAlgorithm

def publicOfText (text : List Char) : Except Fault PublicKey := do
  if "PuTTY-User-Key-File-".toList.isPrefixOf (Text.trim text) then throw .noKey
  let a := Armour.ofText text
  let octets ← a.octets
  match a.format with
  | none => throw .noKey
  | some .openSsh => ofOpenSsh octets
  | some .rsa => ofRsa octets
  | some .structured =>
      match ofStructure octets with
      | .ok key => pure key
      | .error _ => ofCurve none octets
  | some .encrypted => throw .encrypted

def publicOfBytes (s : Bytes) : Except String PublicKey := do
  let text ← (Text.Utf8.decode s).mapError (·.message)
  (publicOfText text).mapError (·.message)

end SshTunnel.PrivateKey
