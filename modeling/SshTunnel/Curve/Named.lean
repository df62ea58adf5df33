import SshTunnel.Curve.Weierstrass

/-!
# Named curves

The curves of which keys are told by name: their primes, the orders of their base points, the base
points, and the sizes of coordinates.
-/

namespace SshTunnel.Curve

def p256 : Weierstrass where
  prime := (1 <<< 256) - (1 <<< 224) + (1 <<< 192) + (1 <<< 96) - 1
  order :=
    0xFFFFFFFF00000000FFFFFFFFFFFFFFFFBCE6FAADA7179E84F3B9CAC2FC632551
  baseX :=
    0x6B17D1F2E12C4247F8BCE6E563A440F277037D812DEB33A0F4A13945D898C296
  baseY :=
    0x4FE342E2FE1A7F9B8EE7EB4A7C0F9E162BCE33576B315ECECBB6406837BF51F5
  size := 32

def p384 : Weierstrass where
  prime := (1 <<< 384) - (1 <<< 128) - (1 <<< 96) + (1 <<< 32) - 1
  order :=
    (0xFFFFFFFFFFFFFFFFFFFFFFFFFFFFFFFF <<< 256) +
      0xFFFFFFFFFFFFFFFFC7634D81F4372DDF581A0DB248B0A77AECEC196ACCC52973
  baseX :=
    (0xAA87CA22BE8B05378EB1C71EF320AD74 <<< 256) +
      0x6E1D3B628BA79B9859F741E082542A385502F25DBF55296C3A545E3872760AB7
  baseY :=
    (0x3617DE4A96262C6F5D9E98BF9292DC29 <<< 256) +
      0xF8F41DBD289A147CE9DA3113B5F0B8C00A60B1CE1D7E819D7A431D7C90EA0E5F
  size := 48

def p521 : Weierstrass where
  prime := (1 <<< 521) - 1
  order :=
    (0x1FF <<< 512) +
      (0xFFFFFFFFFFFFFFFFFFFFFFFFFFFFFFFFFFFFFFFFFFFFFFFFFFFFFFFFFFFFFFFA <<< 256) +
      0x51868783BF2F966B7FCC0148F709A5D03BB5C9B8899C47AEBB6FB71E91386409
  baseX :=
    (0xC6 <<< 512) +
      (0x858E06B70404E9CD9E3ECB662395B4429C648139053FB521F828AF606B4D3DBA <<< 256) +
      0xA14B5E77EFE75928FE1DC127A2FFA8DE3348B3C1856A429BF97E7E31C2E5BD66
  baseY :=
    (0x118 <<< 512) +
      (0x39296A789A3BC0045C8A5FB42C7D1BD998F54449579B446817AFBD17273E662C <<< 256) +
      0x97EE72995EF42640C550B9013FAD0761353C7086A272C24088BE94769FD16650
  size := 66

end SshTunnel.Curve
