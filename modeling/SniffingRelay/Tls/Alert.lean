import SniffingRelay.Text.Numeral

set_option autoImplicit false

namespace SniffingRelay.Tls

def alertContent : UInt8 := 21

def handshakeContent : UInt8 := 22

inductive Alert where
  | internalError
  | unrecognizedName
  deriving DecidableEq, Repr

namespace Alert

def code : Alert -> UInt8
  | .internalError => 80
  | .unrecognizedName => 112

-- A fatal alert in a record of TLS 1.0, which every client can read.
def record (alert : Alert) : List UInt8 :=
  [alertContent, 3, 1, 0, 2, 2, alert.code]

def text (alert : Alert) : String :=
  let name := match alert with
    | .internalError => "internal_error"
    | .unrecognizedName => "unrecognized_name"
  name ++ "(" ++ Numeral.decimal alert.code.toNat ++ ")"

end Alert

end SniffingRelay.Tls
