import SentryKernel.TaskMeta
import SentryKernel.TaskSort
import SentryKernel.TaskInitStep
import SentryKernel.TaskInitRun
import SentryKernel.TaskInitFaultInjection
import SentryKernel.ContextSwitch
import SentryKernel.KernelRun
import SentryKernel.TrapDispatch
import SentryKernel.GpioGate
import SentryKernel.Trap
import SentryKernel.Boot
import SentryKernel.Mmio
import SentryKernel.Rcc
import SentryKernel.Syscfg
