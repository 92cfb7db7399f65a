import Ryke.Lib.Bytes
import Ryke.Lib.Codec
import Ryke.Lib.Checked
import Ryke.Lib.Table
import Ryke.Lib.Run
import Ryke.Primitives
import Ryke.Toy
import Ryke.Crypto
import Ryke.Esp
import Ryke.Tunnel
import Ryke.Ikev2.Message
import Ryke.Ikev2.Payload
import Ryke.Ikev2.Negotiate
import Ryke.Ikev2.Exchange
import Ryke.Ikev2.Sk
import Ryke.Ikev2.Offers
import Ryke.Ikev2.Fragment
import Ryke.Ikev2.Authentic
import Ryke.Ikev2.Sign
import Ryke.Ikev2.IkeAuth
import Ryke.Ikev2.Binding
import Ryke.Ikev2.Eap
import Ryke.Ikev2.Parsers
import Ryke.Ikev2.EapAuth
import Ryke.Ikev2.EapRuns
import Ryke.Ikev2.EapFinality
import Ryke.Ikev2.Informational
import Ryke.Ikev2.Server
import Ryke.Ikev2.Gate
import Ryke.Ikev2.ServerRuns
import Ryke.Ikev2.DataPlane
import Ryke.Ikev2.Network
import Ryke.Ikev2.AuthComplete
import Ryke.Ikev2.Rekey
import Ryke.Ikev2.IkeRekey
import Ryke.Ikev2.EapSteps
import Ryke.Ikev2.EapComplete
import Ryke.Ikev1.Isakmp
import Ryke.Ikev1.Crypto1
import Ryke.Ikev1.Phase1
import Ryke.Ikev1.Quick
import Ryke.Ikev1.Agreement
import Ryke.Ikev1.Server
import Ryke.Ikev1.ServerRuns
import Ryke.Natt
import Ryke.Lib.Climb
import Ryke.Ikev2.CertPath
import Ryke.Ikev2.Limits
import Ryke.Ikev2.Narrowing
import Ryke.Ikev2.Renegotiate
import Ryke.Ikev2.EapChild
import Ryke.Ikev2.EapClientRuns
import Ryke.Ikev2.EapAuthenticator
import Ryke.Ikev1.KeySeparation
import Ryke.Ikev1.Message3
import Ryke.Ikev2.Reassembly
import Ryke.EspSequence
import Ryke.Ikev2.Codecs
import Ryke.Ikev2.Framing
import Ryke.Lib.Thread
import Ryke.Ikev1.ModeCfg
import Ryke.Ikev1.Conversation
import Ryke.Ikev2.Assigned
import Ryke.Lib.Cut
import Ryke.KeyExpansion
import Ryke.DhAgreement
import Ryke.Lib.Tiling
import Ryke.Ikev2.ChildSpi
import Ryke.Ikev1.Schedule
import Ryke.Ikev1.Covered
import Ryke.Ikev1.Client
import Ryke.Ikev1.Network
import Ryke.Lib.Relay
import Ryke.Ikev1.Relay
import Ryke.Ikev1.DataPlane
import Ryke.Ikev2.Relay
import Ryke.Ikev1.Tampering
import Ryke.Ikev2.NatDetection
import Ryke.Ikev2.EapBinding
import Ryke.Ikev2.Credentials
import Ryke.Ikev2.FirstRequest
import Ryke.Lib.Sealing
import Ryke.Ikev2.Mobike
import Ryke.Wire
import Ryke.Ikev1.Selection
