import FdcaRvv.Kernel
import FdcaRvv.Config
import FdcaRvv.Csr
import FdcaRvv.Context
import FdcaRvv.Switch
import FdcaRvv.Instr
import FdcaRvv.Ownership
import FdcaRvv.Vrf
import FdcaRvv.VectorMem
import FdcaRvv.Execute
import FdcaRvv.Gtt
import FdcaRvv.GttSystem
import FdcaRvv.Vram
import FdcaRvv.VramSystem
import FdcaRvv.Memory
import FdcaRvv.Sync
