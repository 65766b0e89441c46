import Migrid.Python.Text
import Migrid.Python.Codec
import Migrid.Pwhash.Policy
import Migrid.Pwhash.Codecs
import Migrid.Pwhash.Check
import Migrid.Accountreq.Peers
import Migrid.Accountreq.Requests
import Migrid.Tail.Main
import Migrid.Proofs.Numbers
import Migrid.Proofs.Codec
import Migrid.Proofs.Strength
import Migrid.Proofs.Policy
import Migrid.Proofs.Cache
import Migrid.Proofs.Hash
import Migrid.Proofs.Scramble
import Migrid.Proofs.Csrf
import Migrid.Proofs.Peers
import Migrid.Proofs.Generate
import Migrid.Proofs.Tail
import Migrid.Proofs.OrgEmail
import Migrid.Proofs.Split
import Migrid.Proofs.PeersForm
import Migrid.Proofs.TailMain
