import SmbNode.Prog.Basic
import SmbNode.Go.Basic
import SmbNode.Go.Utf8
import SmbNode.Go.Base64
import SmbNode.Kerberos.Names
import SmbNode.Kerberos.CacheDir
import SmbNode.Kerberos.Cache
import SmbNode.Kerberos.Invariant
import SmbNode.Prog.Concurrent
import SmbNode.Kerberos.Race
import SmbNode.Node.Call
import SmbNode.Node.MountPoint
import SmbNode.Node.Request
import SmbNode.Node.Server
import SmbNode.Node.Host
import SmbNode.Node.Locks
import SmbNode.Node.Effect
import SmbNode.Node.Service
import SmbNode.Node.Exclusion
