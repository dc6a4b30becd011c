import SniffingRelay.Listener.Bookkeeping
import SniffingRelay.Main
import SniffingRelay.Proofs.AllowList.Entries
import SniffingRelay.Proofs.Http.HeadBuffering
import SniffingRelay.Proofs.Ip.Cidr
import SniffingRelay.Proofs.Ip.Membership
import SniffingRelay.Proofs.Listener.Consistency
import SniffingRelay.Proofs.Session.Counting
import SniffingRelay.Proofs.Session.Dialing
import SniffingRelay.Proofs.Session.Independence
import SniffingRelay.Proofs.Session.Parting
import SniffingRelay.Proofs.Session.Vigil
import SniffingRelay.Proofs.Settings.Listening
import SniffingRelay.Proofs.Stream.Faithfulness
import SniffingRelay.Proofs.Tls.Cuts
import SniffingRelay.Proofs.Tls.Gathering
import SniffingRelay.Proofs.Tls.Precedence
import SniffingRelay.Proofs.Tls.Reassembly
import SniffingRelay.Proofs.Tls.RecordStream
import SniffingRelay.Rehearsal.Gathering
import SniffingRelay.Rehearsal.Launch
