import Rp86.Bus.Pins

/-!
# Words of the prepared responder

The pure half of `bus/prepared_responder.c`: what a sample of the pins means, and the keys and
responses that the PIO programs match and drive.  `ad_pins` lists the same pins as `ad_gpio`.
-/

namespace Rp86

def preparedResponseValidBit : UInt32 := 28

def preparedQualifiedT1ControlBits : UInt32 :=
  (1 : UInt32) <<< pinAle ||| (1 : UInt32) <<< pinIom ||| (1 : UInt32) <<< pinInta

def preparedDecodeAd (sample : UInt32) : UInt16 :=
  adGpio.zipIdx.foldl (fun value p =>
    value ||| (sampleBit sample p.1 <<< UInt32.ofNat p.2).toUInt16) 0

/-- `rp86_prepared_decode_address`: `A16`–`A19` are taken one by one. -/
def preparedDecodeAddress (sample : UInt32) : UInt32 :=
  (highAddressGpio.zipIdx 16).foldl (fun address p =>
    address ||| sampleBit sample p.1 <<< UInt32.ofNat p.2) (preparedDecodeAd sample).toUInt32
      &&& 0xFFFFF

/-- The pins that the bits of `value` from bit `first` on drive high. -/
def encodePins (gpios : List UInt32) (first : ℕ) (value encoded : UInt32) : UInt32 :=
  (gpios.zipIdx first).foldl (fun encoded p =>
    if value &&& (1 : UInt32) <<< UInt32.ofNat p.2 ≠ 0 then encoded ||| (1 : UInt32) <<< p.1
    else encoded) encoded

def preparedEncodeWord (value : UInt16) : UInt32 := encodePins adGpio 0 value.toUInt32 0

def preparedEncodeAddress (address : UInt32) : UInt32 :=
  encodePins highAddressGpio 16 address (preparedEncodeWord address.toUInt16)

def preparedEncodeDrive (value : UInt16) : UInt32 :=
  preparedEncodeWord value ||| (1 : UInt32) <<< preparedResponseValidBit

def preparedMemoryReadKey (address : UInt32) : UInt32 :=
  preparedQualifiedT1ControlBits ||| preparedEncodeAddress address

end Rp86
