import Oak.Attestation.EndorserKeys
import Oak.Attestation.HonestChain
import Oak.C2sp.ExtraSignatures
import Oak.C2sp.ProofRoundTrip
import Oak.C2sp.Signing
import Oak.Channel.BasicFramed
import Oak.Channel.Invocation
import Oak.Crypto.CertificateErrors
import Oak.Crypto.Padding
import Oak.Crypto.ReplayWindow
import Oak.Functions.LookupBounds
import Oak.Gcp.Assertions
import Oak.Ifc.Label
import Oak.Kernel.Contiguous
import Oak.Kernel.LoadSegment
import Oak.Kernel.VirtioConsole
import Oak.PrivateMemory.Index
import Oak.Proxy.EndOfStream
import Oak.Session.HandshakeFaults
import Oak.Session.HonestRun
import Oak.Session.IdleCalls
import Oak.Session.Verdicts
import Oak.Stage0.AcceptMemory
import Oak.Stage0.PValidate
import Oak.Stage0.SealingCdi
import Oak.Tls.Fidelity
import Oak.Tr.EndorscopeTrust
import Oak.Tr.Receipts
